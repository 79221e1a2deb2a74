import ScreenFlow.Project.Reference
import ScreenFlow.Proofs.Effect
import ScreenFlow.Proofs.Project.Incoming
import ScreenFlow.Proofs.Project.Listing

/-!
What a target means to a generated test.  A target under a root marker is taken from the root of the
project; any other is the least file, under one of the names of the target, that the first place to
have such a file offers.  Where no place has one, the reference is guessed and the guess is noted.
-/

namespace ScreenFlow

namespace Surroundings

/-- A file under one of the names. -/
def Fits (around : Surroundings) (names : List String) (path : Path) : Prop :=
  around.files.isFile path = true ∧ Dependency.isNamed names path = true

/-- A pattern leads to the file, from the root of the project. -/
def Matches (around : Surroundings) (names : List String) (pattern : String) (path : Path) : Prop :=
  (∃ glob, Glob.parse pattern = .ok glob ∧ path ∈ glob.paths around.files around.projectRoot) ∧
    around.Fits names path

/-- The file is in the directory, at any depth. -/
def Holds (around : Surroundings) (names : List String) (directory path : Path) : Prop :=
  path ∈ around.below directory ∧ around.Fits names path

/-- The least path of those that the first of the places offers which offers any. -/
def LeastOfFirst {α : Type} (Offers : α → Path → Prop) (places : List α) (path : Path) : Prop :=
  ∃ front place back, places = front ++ place :: back ∧ Path.IsLeast (Offers place) path ∧
    ∀ earlier ∈ front, ∀ other, ¬Offers earlier other

/-- The screen directories beside the test and above it, the nearest first. -/
def screenDirectories (around : Surroundings) : List Path :=
  around.ascent.flatMap fun directory => around.config.screenDirNames.map directory.child

def platformPatterns (around : Surroundings) (platform : String) : List String :=
  (around.config.screenPaths.lookup platform).getD []

def Rooted (around : Surroundings) (target : String) : Prop :=
  ∃ marker ∈ around.config.rootMarkers, marker.toList <+: target.toList

/-- The file or place that a target stands for. -/
inductive Means (around : Surroundings) (platform target : String) : Path → Prop
  | rooted : around.Rooted target →
      Means around platform target (around.projectRoot.child target)
  | platform {path : Path} : ¬around.Rooted target →
      LeastOfFirst (around.Matches (Dependency.nameVariants target))
        (around.platformPatterns platform) path →
      Means around platform target path
  | anywhere {path : Path} : ¬around.Rooted target →
      (∀ pattern ∈ around.platformPatterns platform, ∀ other,
        ¬around.Matches (Dependency.nameVariants target) pattern other) →
      LeastOfFirst (around.Matches (Dependency.nameVariants target))
        around.config.searchPaths path →
      Means around platform target path
  | nearby {path : Path} : ¬around.Rooted target →
      (∀ pattern ∈ around.platformPatterns platform ++ around.config.searchPaths, ∀ other,
        ¬around.Matches (Dependency.nameVariants target) pattern other) →
      LeastOfFirst (around.Holds (Dependency.nameVariants target))
        around.screenDirectories path →
      Means around platform target path

/-! Searching places in turn. -/

section

variable {α : Type} {Offers : α → Path → Prop} {search : α → Option Path}

theorem findSome?_eq_some_iff_leastOfFirst {places : List α}
    (hsome : ∀ place ∈ places, ∀ path,
      search place = some path ↔ Path.IsLeast (Offers place) path)
    (hnone : ∀ place ∈ places, search place = none ↔ ∀ path, ¬Offers place path) {path : Path} :
    places.findSome? search = some path ↔ LeastOfFirst Offers places path := by
  rw [List.findSome?_eq_some_iff]
  constructor
  · rintro ⟨front, place, back, rfl, hfound, hfront⟩
    refine ⟨front, place, back, rfl, (hsome place (by simp) path).mp hfound,
      fun earlier hmem => (hnone earlier (by simp [hmem])).mp (hfront earlier hmem)⟩
  · rintro ⟨front, place, back, rfl, hfound, hfront⟩
    refine ⟨front, place, back, rfl, (hsome place (by simp) path).mpr hfound,
      fun earlier hmem => (hnone earlier (by simp [hmem])).mpr (hfront earlier hmem)⟩

theorem findSome?_eq_none_iff_offers {places : List α}
    (hnone : ∀ place ∈ places, search place = none ↔ ∀ path, ¬Offers place path) :
    places.findSome? search = none ↔ ∀ place ∈ places, ∀ path, ¬Offers place path := by
  rw [List.findSome?_eq_none_iff]
  exact forall₂_congr hnone

end

variable {around : Surroundings} {names : List String}

theorem firstNamed_paths_eq_some_iff {glob : Glob} {directory path : Path} :
    around.firstNamed names (glob.paths around.files directory) = some path ↔
      Path.IsLeast (fun other => other ∈ glob.paths around.files directory ∧
        around.Fits names other) path := by
  unfold firstNamed Glob.paths Fits
  split
  · rw [Path.find?_sort]
    simp only [Bool.and_eq_true, Path.mem_sort]
  · refine iff_of_false (by simp) fun hleast => ?_
    exact absurd hleast.holds.1 (by simp)

theorem firstNamed_paths_eq_none_iff {glob : Glob} {directory : Path} :
    around.firstNamed names (glob.paths around.files directory) = none ↔
      ∀ other, ¬(other ∈ glob.paths around.files directory ∧ around.Fits names other) := by
  unfold firstNamed Fits
  simp [List.find?_eq_none]

/-- What a pattern leads to, if it can be read. -/
def search (around : Surroundings) (names : List String) (pattern : String) : Option Path :=
  (Glob.parse pattern).toOption.bind fun glob =>
    around.firstNamed names (glob.paths around.files around.projectRoot)

theorem search_eq_some_iff {pattern : String} (hpattern : (Glob.parse pattern).isOk = true)
    (path : Path) :
    around.search names pattern = some path ↔
      Path.IsLeast (around.Matches names pattern) path := by
  obtain ⟨glob, hglob⟩ := exists_of_isOk hpattern
  have hmatches (other : Path) : around.Matches names pattern other ↔
      other ∈ glob.paths around.files around.projectRoot ∧ around.Fits names other := by
    simp [Matches, hglob]
  rw [search, hglob, Path.IsLeast.congr hmatches]
  exact firstNamed_paths_eq_some_iff

theorem search_eq_none_iff {pattern : String} (hpattern : (Glob.parse pattern).isOk = true) :
    around.search names pattern = none ↔ ∀ path, ¬around.Matches names pattern path := by
  obtain ⟨glob, hglob⟩ := exists_of_isOk hpattern
  simp only [search, hglob, Matches, Except.ok.injEq, exists_eq_left']
  exact firstNamed_paths_eq_none_iff

theorem not_isAbsolute_of_parse {pattern : String} {glob : Glob}
    (hglob : Glob.parse pattern = .ok glob) : (Path.parse pattern).isAbsolute = false := by
  unfold Glob.parse at hglob
  dsimp only at hglob
  split_ifs at hglob with _ habsolute
  exact Bool.eq_false_of_not_eq_true habsolute

theorem configured_eq {patterns : List String}
    (hpatterns : ∀ pattern ∈ patterns, (Glob.parse pattern).isOk = true) :
    around.configured names patterns = .ok (patterns.findSome? (around.search names)) := by
  induction patterns with
  | nil => rfl
  | cons pattern rest ih =>
      obtain ⟨hpattern, hrest⟩ := List.forall_mem_cons.mp hpatterns
      obtain ⟨glob, hglob⟩ := exists_of_isOk hpattern
      have hsearch : around.search names pattern =
          around.firstNamed names (glob.paths around.files around.projectRoot) := by
        rw [search, hglob]
        rfl
      rw [configured, not_isAbsolute_of_parse hglob, hglob, List.findSome?_cons, hsearch]
      simp only [Bool.false_eq_true, if_false, bind, Except.bind]
      cases around.firstNamed names (glob.paths around.files around.projectRoot) with
      | none => exact ih hrest
      | some path => rfl

theorem nearby?_eq :
    around.nearby? names = around.screenDirectories.findSome? fun directory =>
      around.firstNamed names (around.below directory) := by
  unfold nearby? screenDirectories
  induction around.ascent with
  | nil => rfl
  | cons directory rest ih =>
      rw [List.findSome?_cons, List.flatMap_cons, List.findSome?_append, ih, List.findSome?_map,
        Function.comp_def]
      cases around.config.screenDirNames.findSome? fun name =>
        around.firstNamed names (around.below (directory.child name)) <;> rfl

/-! The directories above the test. -/

theorem upToRoot_upwards_getElem? (root : Path) (levels : Nat) (path directory : Path) (n : Nat) :
    (upToRoot root (Session.upwards levels path))[n]? = some directory ↔
      n < levels ∧ directory = Path.parent^[n] path ∧
        ∀ m < n, Path.parent^[m] path ≠ root ∧
          Path.parent^[m + 1] path ≠ Path.parent^[m] path := by
  induction levels generalizing path n with
  | zero => simp [Session.upwards, upToRoot]
  | succ levels ih =>
      unfold Session.upwards upToRoot
      cases n with
      | zero => simp [eq_comm]
      | succ n =>
          rw [List.getElem?_cons_succ, Nat.add_lt_add_iff_right, Nat.forall_lt_succ_left]
          by_cases hroot : path = root
          · simp [hroot]
          · by_cases htop : path.parent = path
            · simp [htop, upToRoot]
            · rw [if_neg hroot, if_neg htop, ih]
              simp [hroot, htop]

/-! The target. -/

theorem isRooted_iff {target : String} : around.isRooted target = true ↔ around.Rooted target := by
  simp [isRooted, Rooted, startsWith]

theorem target?_eq_of_not_rooted {platform target : String} (hrooted : ¬around.Rooted target)
    (hpatterns : ∀ pattern ∈ around.platformPatterns platform ++ around.config.searchPaths,
      (Glob.parse pattern).isOk = true) :
    around.target? platform target = .ok
      (((around.platformPatterns platform ++ around.config.searchPaths).findSome?
          (around.search (Dependency.nameVariants target))).or
        (around.nearby? (Dependency.nameVariants target))) := by
  rw [target?, if_neg (mt isRooted_iff.mp hrooted)]
  change (around.configured _ (around.platformPatterns platform ++ around.config.searchPaths) >>=
    _) = _
  rw [configured_eq hpatterns]
  cases (around.platformPatterns platform ++ around.config.searchPaths).findSome?
    (around.search (Dependency.nameVariants target)) <;> rfl

/-- The search for a target ends well, with what the target means. -/
theorem target?_eq_ok {platform target : String}
    (hpatterns : ∀ pattern ∈ around.platformPatterns platform ++ around.config.searchPaths,
      (Glob.parse pattern).isOk = true) :
    ∃ found, around.target? platform target = .ok found ∧
      ∀ path, found = some path ↔ around.Means platform target path := by
  by_cases hrooted : around.Rooted target
  · refine ⟨_, by rw [target?, if_pos (isRooted_iff.mpr hrooted)], fun path => ?_⟩
    rw [Option.some.injEq]
    constructor
    · rintro rfl
      exact .rooted hrooted
    · intro hmeans
      cases hmeans with
      | rooted _ => rfl
      | platform hnot _ => exact absurd hrooted hnot
      | anywhere hnot _ _ => exact absurd hrooted hnot
      | nearby hnot _ _ => exact absurd hrooted hnot
  · refine ⟨_, target?_eq_of_not_rooted hrooted hpatterns, fun path => ?_⟩
    have hsome (pattern : String)
        (hmem : pattern ∈ around.platformPatterns platform ++ around.config.searchPaths) :=
      @search_eq_some_iff around (Dependency.nameVariants target) pattern (hpatterns pattern hmem)
    have hnone (pattern : String)
        (hmem : pattern ∈ around.platformPatterns platform ++ around.config.searchPaths) :=
      @search_eq_none_iff around (Dependency.nameVariants target) pattern (hpatterns pattern hmem)
    obtain ⟨hplatform, hanywhere⟩ := List.forall_mem_append.mp hsome
    obtain ⟨hplatformNone, hanywhereNone⟩ := List.forall_mem_append.mp hnone
    have hnearby : around.nearby? (Dependency.nameVariants target) = some path ↔
        LeastOfFirst (around.Holds (Dependency.nameVariants target))
          around.screenDirectories path := by
      rw [nearby?_eq]
      exact findSome?_eq_some_iff_leastOfFirst
        (fun _ _ _ => firstNamed_paths_eq_some_iff) fun _ _ => firstNamed_paths_eq_none_iff
    rw [Option.or_eq_some_iff, hnearby, findSome?_eq_none_iff_offers hnone, List.findSome?_append,
      Option.or_eq_some_iff, findSome?_eq_some_iff_leastOfFirst hplatform hplatformNone,
      findSome?_eq_some_iff_leastOfFirst hanywhere hanywhereNone,
      findSome?_eq_none_iff_offers hplatformNone]
    constructor
    · rintro ((hfound | ⟨hnothing, hfound⟩) | ⟨hnothing, hfound⟩)
      · exact .platform hrooted hfound
      · exact .anywhere hrooted hnothing hfound
      · exact .nearby hrooted hnothing hfound
    · intro hmeans
      cases hmeans with
      | rooted hroot => exact absurd hroot hrooted
      | platform _ hfound => exact .inl (.inl hfound)
      | anywhere _ hnothing hfound => exact .inl (.inr ⟨hnothing, hfound⟩)
      | nearby _ hnothing hfound => exact .inr ⟨hnothing, hfound⟩

/-! The order in which files are listed. -/

theorem fits_iff_of_sameNodes {files : FileTree} (hsame : around.files.SameNodes files)
    (path : Path) : around.Fits names path ↔ { around with files }.Fits names path := by
  unfold Fits
  rw [hsame.isFile]

theorem matches_eq_of_sameNodes {files : FileTree} (hsame : around.files.SameNodes files) :
    around.Matches names = { around with files }.Matches names := by
  funext pattern path
  unfold Matches
  rw [fits_iff_of_sameNodes hsame]
  simp only [Glob.mem_paths_congr hsame]

theorem holds_eq_of_sameNodes {files : FileTree} (hsame : around.files.SameNodes files) :
    around.Holds names = { around with files }.Holds names := by
  funext directory path
  unfold Holds below
  rw [fits_iff_of_sameNodes hsame, Glob.mem_paths_congr hsame]

theorem Means.of_sameNodes {platform target : String} {path : Path} {files : FileTree}
    (hmeans : around.Means platform target path) (hsame : around.files.SameNodes files) :
    { around with files }.Means platform target path := by
  cases hmeans with
  | rooted hrooted => exact .rooted hrooted
  | platform hnot hfound =>
      rw [matches_eq_of_sameNodes hsame] at hfound
      exact .platform hnot hfound
  | anywhere hnot hnothing hfound =>
      rw [matches_eq_of_sameNodes hsame] at hnothing hfound
      exact .anywhere hnot hnothing hfound
  | nearby hnot hnothing hfound =>
      rw [matches_eq_of_sameNodes hsame] at hnothing
      rw [holds_eq_of_sameNodes hsame] at hfound
      exact .nearby hnot hnothing hfound

end Surroundings

namespace Compilation

open Surroundings

/-- What is noted when a reference is guessed. -/
def guessNote (target : String) : Degradation :=
  ⟨"path", target, guess (forwardSlashes target), []⟩

/-- The files are those of the session. -/
theorem run_reference_files (task : Assignment) (artifact : Path) (target platform : String)
    (desk : Desk) :
    (ExceptT.run (reference task artifact target platform)).run desk =
      (ExceptT.run (do
        match ← ofExcept ((task.surroundings desk.session.files artifact).target? platform
          (forwardSlashes target)) with
        | some path => return (task.surroundings desk.session.files artifact).reference path
        | none => do
            degrade "path" target (guess (forwardSlashes target)) []
            return guess (forwardSlashes target) : Compilation String)).run desk :=
  rfl

theorem run_reference (task : Assignment) (artifact : Path) (target platform : String)
    (desk : Desk) :
    (ExceptT.run (reference task artifact target platform)).run desk =
      match (task.surroundings desk.session.files artifact).target? platform
        (forwardSlashes target) with
      | .ok (some path) =>
          (.ok ((task.surroundings desk.session.files artifact).reference path), desk)
      | .ok none => (.ok (guess (forwardSlashes target)),
          { desk with ledger := desk.ledger.degrade (guessNote target) })
      | .error failure => (.error failure, desk) := by
  rw [run_reference_files]
  cases (task.surroundings desk.session.files artifact).target? platform
      (forwardSlashes target) with
  | error failure => rfl
  | ok found => cases found <;> rfl

/-- Where all patterns can be read, the reference leads to what the target means, and nothing is
noted; where the target means nothing, the reference is guessed, and this is the one thing noted.
The walk goes up at most ten levels and not beyond the root of the project, and the order in which
the files are listed makes no difference. -/
theorem reference_leads_to_meaning (task : Assignment) (artifact : Path)
    (target platform : String) (desk : Desk)
    (hpatterns : ∀ pattern ∈ ((task.config.screenPaths.lookup platform).getD []) ++
      task.config.searchPaths, (Glob.parse pattern).isOk = true) :
    (∀ path, (task.surroundings desk.session.files artifact).Means platform
        (forwardSlashes target) path →
      (ExceptT.run (reference task artifact target platform)).run desk =
        (.ok ((task.surroundings desk.session.files artifact).reference path), desk)) ∧
    ((∀ path, ¬(task.surroundings desk.session.files artifact).Means platform
        (forwardSlashes target) path) →
      (ExceptT.run (reference task artifact target platform)).run desk =
        (.ok (guess (forwardSlashes target)),
          { desk with ledger := desk.ledger.degrade (guessNote target) })) ∧
    (∀ n directory, (task.surroundings desk.session.files artifact).ascent[n]? = some directory ↔
      n < 10 ∧ directory = Path.parent^[n] artifact.parent ∧
        ∀ m < n, Path.parent^[m] artifact.parent ≠ task.projectRoot ∧
          Path.parent^[m + 1] artifact.parent ≠ Path.parent^[m] artifact.parent) ∧
    ∀ files, desk.session.files.SameNodes files →
      ((ExceptT.run (reference task artifact target platform)).run
          { desk with session := { desk.session with files } }).1 =
        ((ExceptT.run (reference task artifact target platform)).run desk).1 ∧
      ((ExceptT.run (reference task artifact target platform)).run
          { desk with session := { desk.session with files } }).2.ledger =
        ((ExceptT.run (reference task artifact target platform)).run desk).2.ledger := by
  obtain ⟨found, hfound, hmeans⟩ := @target?_eq_ok
    (task.surroundings desk.session.files artifact) platform (forwardSlashes target) hpatterns
  refine ⟨fun path hpath => ?_, fun hnothing => ?_,
    fun n directory => upToRoot_upwards_getElem? _ 10 _ _ _, fun files hsame => ?_⟩
  · rw [run_reference, hfound, (hmeans path).mpr hpath]
  · cases found with
    | none => rw [run_reference, hfound]
    | some path => exact absurd ((hmeans path).mp rfl) (hnothing path)
  · obtain ⟨again, hagain, hmeansAgain⟩ := @target?_eq_ok
      (task.surroundings files artifact) platform (forwardSlashes target) hpatterns
    have hfounds : found = again := by
      ext path
      rw [hmeans, hmeansAgain]
      exact ⟨fun hpath => hpath.of_sameNodes hsame, fun hpath => hpath.of_sameNodes hsame.symm⟩
    have hreference : (task.surroundings files artifact).reference =
        (task.surroundings desk.session.files artifact).reference := by
      unfold Surroundings.reference Assignment.surroundings
      dsimp only
      rw [hsame.workingDirectory]
    rw [run_reference, run_reference, hfound, hagain, ← hfounds, hreference]
    cases found <;> exact ⟨rfl, rfl⟩

/-- The screens of the platform are configured, and the one there is belongs to all platforms. -/
def shopTask : Assignment :=
  { Incoming.graphTask {} with
    config := { screenPaths := [("web", ["web/Cart.js"])], searchPaths := ["screens/Cart.js"] } }

def shopFiles : FileTree where
  nodes := [(["screens"], .directory), (["screens", "Cart.js"], .file "")]

def cartScreen : Path :=
  .absolute ["screens", "Cart.js"]

def cartTest : Path :=
  .absolute ["tests", "cart.spec.js"]

theorem parse_shop_patterns :
    Glob.parse "web/Cart.js" = .ok ⟨[.exact "web", .exact "Cart.js"], false⟩ ∧
      Glob.parse "screens/Cart.js" = .ok ⟨[.exact "screens", .exact "Cart.js"], false⟩ :=
  ⟨rfl, rfl⟩

theorem shop_cart_means_screen :
    (shopTask.surroundings shopFiles cartTest).Means "web" (forwardSlashes "Cart") cartScreen := by
  obtain ⟨hweb, hscreens⟩ := parse_shop_patterns
  have hplatform (other : Path) : ¬(shopTask.surroundings shopFiles cartTest).Matches
      (Dependency.nameVariants (forwardSlashes "Cart")) "web/Cart.js" other := by
    rintro ⟨⟨glob, hglob, hmem⟩, -⟩
    cases hweb.symm.trans hglob
    have hselect : Glob.select shopFiles false [.exact "web", .exact "Cart.js"]
        (.absolute []) = [] := by
      decide +kernel
    have hother := (Glob.mem_paths_iff.mp hmem).2
    change other ∈ Glob.select shopFiles false [.exact "web", .exact "Cart.js"] (.absolute [])
      at hother
    rw [hselect] at hother
    cases hother
  have hselect : Glob.select shopFiles false [.exact "screens", .exact "Cart.js"]
      (.absolute []) = [cartScreen] := by
    decide +kernel
  have hpaths (other : Path) :
      other ∈ Glob.paths ⟨[.exact "screens", .exact "Cart.js"], false⟩ shopFiles (.absolute []) ↔
        other = cartScreen := by
    rw [Glob.mem_paths_iff, hselect, List.mem_singleton]
    exact and_iff_right (by decide +kernel)
  refine .anywhere ?_ ?_ ⟨[], "screens/Cart.js", [], rfl, ⟨⟨⟨_, hscreens, ?_⟩, ?_⟩, ?_⟩, by simp⟩
  · rw [← isRooted_iff]
    decide +kernel
  · intro pattern hpattern
    rw [List.mem_singleton.mp hpattern]
    exact hplatform
  · exact (hpaths _).mpr rfl
  · unfold Fits
    decide +kernel
  · rintro other ⟨⟨glob, hglob, hmem⟩, -⟩
    cases hscreens.symm.trans hglob
    rw [(hpaths other).mp hmem]
    decide +kernel

theorem shop_cart_reference :
    (∀ pattern ∈ ((shopTask.config.screenPaths.lookup "web").getD []) ++
        shopTask.config.searchPaths, (Glob.parse pattern).isOk = true) ∧
      (shopTask.surroundings shopFiles cartTest).Means "web" (forwardSlashes "Cart") cartScreen ∧
      (ExceptT.run (reference shopTask cartTest "Cart" "web")).run
          { session := { files := shopFiles } } =
        (.ok "../screens/Cart", { session := { files := shopFiles } }) := by
  have hpatterns : ∀ pattern ∈ ((shopTask.config.screenPaths.lookup "web").getD []) ++
      shopTask.config.searchPaths, (Glob.parse pattern).isOk = true := by
    decide +kernel
  have hreference :
      (shopTask.surroundings shopFiles cartTest).reference cartScreen = "../screens/Cart" := by
    decide +kernel
  refine ⟨hpatterns, shop_cart_means_screen, ?_⟩
  rw [← hreference]
  exact (reference_leads_to_meaning shopTask cartTest "Cart" "web"
    { session := { files := shopFiles } } hpatterns).1 cartScreen shop_cart_means_screen

end Compilation

end ScreenFlow
