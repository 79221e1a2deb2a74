import ScreenFlow.Project.Path
import Mathlib.Data.List.Induction
import Mathlib.Data.List.TakeWhile

/-!
Paths that are spelled as texts.  A component of such a path holds no slash; a text that is the name
of an entry leads from a directory to a path directly inside of it, and the text of a relative path
spells that path.

Double dots are taken back one by one: behind a directory, the way from it to a path leads to the
path.
-/

namespace ScreenFlow

namespace Text

/-- A piece has only characters of the text, and none of them is the separator. -/
theorem of_mem_splitOn {separator : Char} {text piece : List Char}
    (hpiece : piece ∈ splitOn separator text) : ∀ c ∈ piece, c ∈ text ∧ c ≠ separator := by
  induction text generalizing piece with
  | nil =>
      rw [List.mem_singleton.mp hpiece]
      simp
  | cons d rest ih =>
      have hrest {piece : List Char} (hmem : piece ∈ splitOn separator rest) :
          ∀ c ∈ piece, c ∈ d :: rest ∧ c ≠ separator :=
        fun c hc => (ih hmem c hc).imp_left (List.mem_cons_of_mem d)
      unfold splitOn at hpiece
      split at hpiece
      · rcases List.mem_cons.mp hpiece with rfl | hmem
        · simp
        · exact hrest hmem
      · next hd =>
          cases hpieces : splitOn separator rest with
          | nil => exact absurd hpieces (splitOn_ne_nil separator rest)
          | cons first others =>
              rw [hpieces] at hpiece hrest
              rcases List.mem_cons.mp hpiece with rfl | hother
              · exact List.forall_mem_cons.mpr ⟨⟨List.mem_cons_self, hd⟩, hrest List.mem_cons_self⟩
              · exact hrest (List.mem_cons_of_mem _ hother)

theorem splitOn_of_not_mem {separator : Char} {text : List Char} (htext : separator ∉ text) :
    splitOn separator text = [text] := by
  induction text with
  | nil => rfl
  | cons c rest ih =>
      obtain ⟨hc, hrest⟩ := not_or.mp (mt List.mem_cons.mpr htext)
      simp [splitOn, Ne.symm hc, ih hrest]

theorem splitOn_append_cons {separator : Char} {first : List Char} (hfirst : separator ∉ first)
    (rest : List Char) :
    splitOn separator (first ++ separator :: rest) = first :: splitOn separator rest := by
  induction first with
  | nil => simp [splitOn]
  | cons c first ih =>
      obtain ⟨hc, hothers⟩ := not_or.mp (mt List.mem_cons.mpr hfirst)
      simp [splitOn, Ne.symm hc, ih hothers]

theorem cutLast?_append {separator : Char} {ending : List Char} (hending : separator ∉ ending)
    (stem : List Char) :
    cutLast? separator (stem ++ separator :: ending) = some (stem, ending) := by
  have hlast : afterLast separator (stem ++ separator :: ending) = ending := by
    have hreverse : ∀ c ∈ ending.reverse, (c != separator) = true := fun c hc =>
      bne_iff_ne.mpr fun heq => hending (heq ▸ List.mem_reverse.mp hc)
    rw [afterLast, List.reverse_append, List.reverse_cons, List.append_assoc,
      List.takeWhile_append_of_pos hreverse, List.singleton_append,
      List.takeWhile_cons_of_neg (by simp), List.append_nil, List.reverse_reverse]
  have hlength : (stem ++ separator :: ending).length - ending.length - 1 = stem.length := by
    rw [List.length_append, List.length_cons]
    omega
  unfold cutLast?
  dsimp only
  rw [hlast, hlength, List.take_left, if_pos (by simp; omega)]

theorem of_cutLast?_eq_some {separator : Char} {text stem ending : List Char}
    (hcut : cutLast? separator text = some (stem, ending)) :
    text = stem ++ separator :: ending ∧ separator ∉ ending := by
  -- the text, read from its end
  have hsplit := List.takeWhile_append_dropWhile (p := (· != separator)) (l := text.reverse)
  have hlast : separator ∉ afterLast separator text := by
    rw [afterLast, List.mem_reverse]
    intro hmem
    simpa using List.mem_takeWhile_imp hmem
  cases hdrop : text.reverse.dropWhile (· != separator) with
  | nil =>
      rw [hdrop, List.append_nil] at hsplit
      rw [cutLast?, afterLast, hsplit, List.reverse_reverse, if_neg (Nat.lt_irrefl _)] at hcut
      cases hcut
  | cons c rest =>
      obtain rfl : c = separator := by
        have hhead := List.head?_dropWhile_not (· != separator) text.reverse
        rw [hdrop] at hhead
        simpa using hhead
      have htext : text = rest.reverse ++ c :: afterLast c text := by
        rw [afterLast, ← List.reverse_inj]
        simpa [hdrop] using hsplit.symm
      rw [htext, cutLast?_append hlast, Option.some.injEq, Prod.mk.injEq] at hcut
      obtain ⟨rfl, rfl⟩ := hcut
      exact ⟨htext, hlast⟩

end Text

namespace Path

/-- A text that names an entry of a directory. -/
structure IsName (text : String) : Prop where
  ne_empty : text ≠ ""
  noSlash : '/' ∉ text.toList
  ne_dot : text ≠ "."
  ne_dots : text ≠ ".."

theorem isName_iff {text : String} :
    IsName text ↔ text ≠ "" ∧ '/' ∉ text.toList ∧ text ≠ "." ∧ text ≠ ".." :=
  ⟨fun h => ⟨h.ne_empty, h.noSlash, h.ne_dot, h.ne_dots⟩, fun ⟨h₁, h₂, h₃, h₄⟩ => ⟨h₁, h₂, h₃, h₄⟩⟩

instance (text : String) : Decidable (IsName text) :=
  decidable_of_iff _ isName_iff.symm

/-- A component of a path that a text spells is the name of an entry, or it is the double dot. -/
theorem isName_of_mem_parse {text part : String} (hpart : part ∈ (parse text).parts)
    (hdots : part ≠ "..") : IsName part := by
  obtain ⟨hpiece, hkept⟩ := List.mem_filter.mp hpart
  obtain ⟨piece, hsplit, rfl⟩ := List.mem_map.mp hpiece
  simp only [Bool.and_eq_true, bne_iff_ne, ne_eq] at hkept
  refine ⟨hkept.1, ?_, hkept.2, hdots⟩
  rw [String.toList_ofList]
  exact fun hslash => (Text.of_mem_splitOn hsplit '/' hslash).2 rfl

theorem parse_of_isName {text : String} (hname : IsName text) :
    parse text = { parts := [text] } := by
  have hroot : rootOf text.toList = "" := by
    unfold rootOf
    have hslash := hname.noSlash
    split <;> simp_all
  have hparts : partsOf text.toList = [text] := by
    simp [partsOf, Text.splitOn_of_not_mem hname.noSlash, hname.ne_empty, hname.ne_dot]
  rw [parse, hroot, hparts]

/-- The name of an entry leads directly into a directory. -/
theorem child_of_isName {text : String} (hname : IsName text) (directory : Path) :
    directory.child text = { directory with parts := directory.parts ++ [text] } := by
  simp [child, parse_of_isName hname, join, isAbsolute]

/-! The text of a relative path. -/

/-- A component of a relative path: the name of an entry, or a step back. -/
def IsStep (part : String) : Prop :=
  IsName part ∨ part = ".."

theorem IsStep.ne_empty {part : String} (hstep : IsStep part) : part ≠ "" := by
  rcases hstep with hname | rfl
  · exact hname.ne_empty
  · decide

theorem IsStep.noSlash {part : String} (hstep : IsStep part) : '/' ∉ part.toList := by
  rcases hstep with hname | rfl
  · exact hname.noSlash
  · decide

theorem IsStep.ne_dot {part : String} (hstep : IsStep part) : part ≠ "." := by
  rcases hstep with hname | rfl
  · exact hname.ne_dot
  · decide

theorem partsOf_append_slash {part : String} (hpart : IsStep part) (rest : List Char) :
    partsOf (part.toList ++ '/' :: rest) = part :: partsOf rest := by
  rw [partsOf, Text.splitOn_append_cons hpart.noSlash, List.map_cons, String.ofList_toList,
    List.filter_cons_of_pos (by simp [hpart.ne_empty, hpart.ne_dot])]
  rfl

theorem partsOf_intercalate {parts : List String} (hparts : ∀ part ∈ parts, IsStep part) :
    partsOf ("/".intercalate parts).toList = parts := by
  induction parts with
  | nil => rfl
  | cons part rest ih =>
      obtain ⟨hpart, hrest⟩ := List.forall_mem_cons.mp hparts
      cases rest with
      | nil =>
          rw [String.intercalate_singleton, partsOf, Text.splitOn_of_not_mem hpart.noSlash]
          simp [hpart.ne_empty, hpart.ne_dot]
      | cons next others =>
          rw [String.intercalate_cons_cons, String.toList_append, String.toList_append,
            List.append_assoc]
          exact (partsOf_append_slash hpart _).trans (congrArg _ (ih hrest))

theorem rootOf_cons {c : Char} (hc : c ≠ '/') (rest : List Char) : rootOf (c :: rest) = "" := by
  unfold rootOf
  split <;> simp_all

theorem parse_toText {parts : List String} (hparts : ∀ part ∈ parts, IsStep part)
    (hne : parts ≠ []) : parse (toText { parts }) = { parts } := by
  obtain ⟨part, rest, rfl⟩ := List.exists_cons_of_ne_nil hne
  have hpart := hparts part List.mem_cons_self
  have htext : toText { parts := part :: rest } = "/".intercalate (part :: rest) := by
    simp [toText]
  have hroot : rootOf ("/".intercalate (part :: rest)).toList = "" := by
    obtain ⟨c, others, hc⟩ :=
      List.exists_cons_of_ne_nil (mt String.toList_eq_nil_iff.mp hpart.ne_empty)
    have hslash : c ≠ '/' := fun heq => hpart.noSlash (by simp [hc, heq])
    have hhead : ∃ behind, ("/".intercalate (part :: rest)).toList = c :: behind := by
      cases rest with
      | nil => exact ⟨others, by rw [String.intercalate_singleton, hc]⟩
      | cons next more =>
          rw [String.intercalate_cons_cons, String.append_assoc, String.toList_append, hc]
          exact ⟨_, rfl⟩
    obtain ⟨behind, hbehind⟩ := hhead
    rw [hbehind, rootOf_cons hslash]
  rw [htext, parse, hroot, partsOf_intercalate hparts]

/-- A dot in front of a path leads nowhere else. -/
theorem parse_behind_dot {parts : List String} (hparts : ∀ part ∈ parts, IsStep part)
    (hne : parts ≠ []) : parse ("./" ++ toText { parts }) = { parts } := by
  have hplain := congrArg Path.parts (parse_toText hparts hne)
  have htext : ("./" ++ toText { parts }).toList = '.' :: '/' :: (toText { parts }).toList := by
    simp [String.toList_append]
  rw [parse, htext, rootOf_cons (by decide)]
  simpa [parse, partsOf, Text.splitOn] using hplain

/-! Double dots. -/

/-- A path from the root by the names of entries. -/
structure IsNormal (path : Path) : Prop where
  absolute : path.isAbsolute = true
  names : ∀ part ∈ path.parts, IsName part

instance (path : Path) : Decidable path.IsNormal :=
  decidable_of_iff (path.isAbsolute = true ∧ ∀ part ∈ path.parts, IsName part)
    ⟨fun h => ⟨h.1, h.2⟩, fun h => ⟨h.absolute, h.names⟩⟩

theorem collapse_concat (parts : List String) (part : String) :
    collapse (parts ++ [part]) =
      if part = ".." then (collapse parts).dropLast else collapse parts ++ [part] := by
  simp [collapse, List.foldl_append]

theorem collapse_append_names (parts : List String) {names : List String}
    (hnames : ∀ name ∈ names, name ≠ "..") :
    collapse (parts ++ names) = collapse parts ++ names := by
  induction names using List.reverseRec with
  | nil => rw [List.append_nil, List.append_nil]
  | append_singleton names name ih =>
      obtain ⟨hothers, hname⟩ := List.forall_mem_append.mp hnames
      rw [← List.append_assoc, collapse_concat, if_neg (hname name (List.mem_singleton_self _)),
        ih hothers, List.append_assoc]

theorem collapse_names {names : List String} (hnames : ∀ name ∈ names, name ≠ "..") :
    collapse names = names :=
  collapse_append_names [] hnames

theorem collapse_append_replicate (parts : List String) (count : Nat) :
    collapse (parts ++ List.replicate count "..") =
      (collapse parts).take ((collapse parts).length - count) := by
  induction count with
  | zero => simp
  | succ count ih =>
      rw [List.replicate_succ', ← List.append_assoc, collapse_concat, if_pos rfl, ih,
        List.dropLast_eq_take, List.take_take, List.length_take]
      congr 1
      omega

theorem commonLength_le (first second : List String) :
    commonLength first second ≤ first.length := by
  fun_induction commonLength first second with
  | case1 => simpa
  | case2 => simp
  | case3 => simp

theorem take_commonLength (first second : List String) :
    first.take (commonLength first second) = second.take (commonLength first second) := by
  fun_induction commonLength first second with
  | case1 => simpa
  | case2 => simp
  | case3 => simp

theorem normalize_of_isNormal {path : Path} (hnormal : path.IsNormal) (directory : Path) :
    path.normalize directory = path := by
  have hparts := collapse_names fun part hpart => (hnormal.names part hpart).ne_dots
  unfold normalize join
  dsimp only
  rw [if_pos hnormal.absolute, hparts]

/-- Back to what a directory has in common with a path, and from there on by names. -/
theorem collapse_climb {directory : List String} {common : Nat}
    (hdirectory : ∀ name ∈ directory, name ≠ "..") (hcommon : common ≤ directory.length)
    {names : List String} (hnames : ∀ name ∈ names, name ≠ "..") :
    collapse (directory ++ (List.replicate (directory.length - common) ".." ++ names)) =
      directory.take common ++ names := by
  rw [← List.append_assoc, collapse_append_names _ hnames, collapse_append_replicate,
    collapse_names hdirectory, Nat.sub_sub_self hcommon]

end Path

end ScreenFlow
