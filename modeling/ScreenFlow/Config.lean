import ScreenFlow.Json.Reader
import ScreenFlow.Schema

/-!
Settings of a project and its platforms.  A platform that is neither configured nor built in is a
browser platform named after itself; a configured one overrides its default field by field.
-/

namespace ScreenFlow

structure Platform where
  suffix : String
  validationKey : String
  automation : String := "browser"
  deriving DecidableEq, Repr

namespace Platform

def isNative (platform : Platform) : Bool :=
  platform.automation == "native"

def builtIn : List (String × Platform) := [
  ("web", ⟨"Web", "Web", "browser"⟩),
  ("cms", ⟨"CMS", "CMS", "browser"⟩),
  ("mobile-dancer", ⟨"Dancer", "dancer", "native"⟩),
  ("mobile-manager", ⟨"Manager", "clubApp", "native"⟩),
  ("dancer", ⟨"Dancer", "dancer", "native"⟩),
  ("clubApp", ⟨"ClubApp", "clubApp", "native"⟩)]

def default (name : String) : Platform :=
  (builtIn.lookup name).getD ⟨capitalized name, name, "browser"⟩

def toEntries (platform : Platform) : Entries := [
  (.name "suffix", .text platform.suffix),
  (.name "validationKey", .text platform.validationKey),
  (.name "automation", .text platform.automation)]

/-- The fields an entry sets over those of the default platform. -/
def merged (name : String) (overrides : Entries) : Entries :=
  let fields := overrides.filter fun entry => entry.1 != .name "validation_key"
  let fields :=
    match overrides.get? "validation_key" with
    | some value => Entries.put fields (.name "validationKey") value
    | none => fields
  fields.foldl (fun entries entry => entries.put entry.1 entry.2) (default name).toEntries

def read : Value → Reading Platform :=
  Schema.record fun entries =>
    Platform.mk
      <$> Schema.required entries (.same "suffix") Schema.string
      <*> Schema.required entries ⟨"validationKey", "validation_key"⟩ Schema.string
      <*> Schema.optional entries (.same "automation") "browser" Schema.string

/-- Every configured map, merged with its default. -/
def mergedAll (value : Value) : Value :=
  match value with
  | .map entries =>
      .map (entries.filterMap fun entry =>
        match entry.2 with
        | .map overrides => some (entry.1, .map (merged entry.1.text overrides))
        | _ => none)
  | _ => .map []

end Platform

structure Config where
  projectMarker : String := "tests"
  rootMarkers : List String := ["tests/"]
  implicationsDir : String := "tests/implications"
  registryPath : String := "tests/implications/.state-registry.json"
  discoveryPath : String := ".implications-framework/cache/discovery-result.json"
  utilsPath : Option String := none
  screenPaths : List (String × List String) := []
  searchPaths : List String := []
  screenDirNames : List String := ["screenObjects", "screens", "pages", "pageObjects", "poms"]
  platforms : List (String × Platform) := []
  deriving Repr

namespace Config

def title : String := "ProjectConfig"

def fileName : String := "ai-testing.config.json"

def texts : Value → Reading (List String) :=
  Schema.list Schema.string

def read : Value → Reading Config :=
  Schema.record fun entries =>
    let usual : Config := {}
    Config.mk
      <$> Schema.optional entries ⟨"projectMarker", "project_marker"⟩ usual.projectMarker
        Schema.string
      <*> Schema.optional entries ⟨"rootMarkers", "root_markers"⟩ usual.rootMarkers texts
      <*> Schema.optional entries ⟨"implicationsDir", "implications_dir"⟩ usual.implicationsDir
        Schema.string
      <*> Schema.optional entries ⟨"registryPath", "registry_path"⟩ usual.registryPath
        Schema.string
      <*> Schema.optional entries ⟨"discoveryPath", "discovery_path"⟩ usual.discoveryPath
        Schema.string
      <*> Schema.optional entries ⟨"utilsPath", "utils_path"⟩ none Schema.optionalString
      <*> Schema.optional entries ⟨"screenPaths", "screen_paths"⟩ [] (Schema.mapOf texts)
      <*> Schema.optional entries ⟨"searchPaths", "search_paths"⟩ [] texts
      <*> Schema.optional entries ⟨"screenDirNames", "screen_dir_names"⟩ usual.screenDirNames
        texts
      <*> Schema.optional entries (.same "platforms") []
        (fun value => Schema.mapOf Platform.read (Platform.mergedAll value))

def platform (config : Config) (name : String) : Platform :=
  (config.platforms.lookup name).getD (Platform.default name)

/-- The settings a configuration file gives; the usual ones when there is no file or it cannot be
read. -/
def ofFile (text : Option String) : Config :=
  (((text.bind Json.read?).map read).bind Reading.result?).getD {}

end Config

end ScreenFlow
