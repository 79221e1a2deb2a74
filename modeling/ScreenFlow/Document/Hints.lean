import ScreenFlow.Document.Summary
import ScreenFlow.Script.Quoted

/-!
Lines that a generated test starts from: how to get to the screen, what to do there, and the test
cases.  Where the unit does not say, they are comments for the reader of the test.
-/

namespace ScreenFlow.Document

def waitForNetwork : String := "await page.waitForLoadState('networkidle');"

/-- The address that the navigation of a state names. -/
def navigationUrl? (navigation : Value) : Option String :=
  match navigation with
  | .map entries =>
      let url := Value.orNull (Entries.get? entries "url")
      let target := if url.truthy then url else .orNull (Entries.get? entries "path")
      target.string?.filter (· != "")
  | _ => none

/-- Where pages of the content system in some status are found. -/
def contentPage (status : String) : String :=
  if ["empty", "filling"].contains status then "'/admin/pages/new'"
  else if ["draft", "published"].contains status then
    let mark := String.ofList [Char.ofNat 0x60]
    mark ++ "/admin/pages/$\x7bctx.data.pageId\x7d/edit" ++ mark
  else if status = "archived" then "'/admin/pages/archived'"
  else "'/admin/pages'"

def navigationHints (platform : String) (isNative : Bool) (status : Option String) :
    List String :=
  if isNative then ["// await app.navigateToScreen();"]
  else if platform = "cms" then
    ["// await page.goto(" ++ contentPage (status.getD "") ++ ");", "// " ++ waitForNetwork]
  else ["// await page.goto('/');", "// " ++ waitForNetwork]

/-- Statements that open the screen, or comments when its address is not known. -/
def navigationLines (platform : String) (isNative : Bool) (navigation : Value)
    (status : Option String) : List String :=
  match navigationUrl? navigation, isNative with
  | some url, false => ["await page.goto(" ++ Script.quote url ++ ");", waitForNetwork]
  | _, _ => navigationHints platform isNative status

/-- A status in a sentence; a missing one is named as such. -/
def statusText (status : Option String) : String :=
  status.getD "None"

/-- Comments on how to carry out the action by hand. -/
def actionHints (isNative : Bool) (button status : Option String) : List String :=
  match button.filter (· != ""), isNative with
  | some button, true => [
      "// await app.screen.btn" ++ button ++ ".click();",
      "// await app.screen.successMessage.waitForDisplayed();"]
  | some button, false => [
      "// await page.getByRole('button', \x7b name: " ++ Script.quote button ++ " \x7d).click();",
      "// await page.waitForSelector('.success-message');"]
  | none, _ => ["// Perform the action that leads to '" ++ statusText status ++ "'"]

structure OptionParam where
  type : String
  name : String
  description : String
  deriving DecidableEq, Repr

/-- A test that works on single elements can be told which. -/
def optionParams (hasEntityLogic : Bool) : List OptionParam :=
  if hasEntityLogic then [
    ⟨"\x7bnumber\x7d", "index", "Single entity index"⟩,
    ⟨"\x7bnumber[]\x7d", "indices", "Multiple entity indices"⟩]
  else []

structure TestCase where
  description : String
  params : Option String := none
  deriving DecidableEq, Repr

def testCases (hasEntityLogic : Bool) (entityName : String) (status : Option String) :
    List TestCase :=
  if hasEntityLogic then [
    ⟨"Process first " ++ entityName, some "index: 0"⟩,
    ⟨"Process multiple " ++ entityName ++ "s", some "indices: [0, 1, 2]"⟩]
  else [⟨"Execute " ++ statusText status ++ " transition", none⟩]

end ScreenFlow.Document
