import ScreenFlow.Template

/-!
The template of a generated unit test.  It is kept as nodes, one output line to a row where it fits.
-/

namespace ScreenFlow.Template.UnitTest

open Template (Expr Node)

def put (name : String) : Node := .output (.name name)

def text (value : String) : Expr := .literal (.text value)

def field (item name : String) : Expr := .attribute (.name item) name

/-- A value as a literal of the script. -/
def js (expr : Expr) : Expr := .apply .script [expr]

/-- Lines of code moved to the right. -/
def indented (expr : Expr) (depth : Int) : Expr :=
  .apply .lines [expr, .literal (.int depth)]

/-- The lines that say what the file is and which transition it tests. -/
def header : List Node := [
  .text "// ", put "test_file_name", .text "\n",
  .text "// ", put "impl_class_name", .text ": ",
  .output (.orElse (.name "previous_status") (text "(initial)")), .text " -> ",
  put "target_status", .text " [", put "platform", .text "]\n",
  .branch (.name "transition") [
    .text "// Transition: ", .output (field "transition" "from_state"), .text " --",
    .output (field "transition" "event"), .text "--> ", put "target_status", .text "\n"] [
    .text "// Inducer: no incoming transition resolved, the state is set up directly.\n"],
  .text "// Regenerate instead of editing by hand.\n",
  .text "\n"]

/-- What the test makes available to itself, and the data of the state. -/
def requires : List Node := [
  .branch (.name "is_native") [
    .text "const \x7b expect \x7d = require('@wdio/globals');\n"] [
    .text "const \x7b test, expect \x7d = require('@playwright/test');\n"],
  .text "const TestContext = require(",
  .output (js (.concat (.name "utils_path") (text "/TestContext"))), .text ");\n",
  .branch (.name "previous_status") [
    .text "const TestPlanner = require(",
    .output (js (.concat (.name "utils_path") (text "/TestPlanner"))), .text ");\n"] [],
  .branch (.name "needs_expect_implication") [
    .text "const ExpectImplication = require(",
    .output (js (.concat (.name "utils_path") (text "/ExpectImplication"))), .text ");\n"] [],
  .loop "ref" (.name "imports") [
    .text "const ", .output (field "ref" "class_name"), .text " = require(",
    .output (js (field "ref" "path")), .text ");\n"],
  .text "\n",
  .text "const META = ", put "meta_literal", .text ";\n"]

/-- The test function up to its statements. -/
def functionHead : List Node := [
  .text "\n",
  .text "/**\n",
  .text " * ", put "action_description", .text "\n",
  .text " *\n",
  .branch (.name "is_native") [
    .text " * @param \x7bobject\x7d ", put "app_object", .text " - Native app driver\n"] [
    .text " * @param \x7bimport('@playwright/test').Page\x7d ", put "app_object", .text "\n"],
  .text " * @param \x7bstring\x7d testDataPath - Path to the shared test data file\n",
  .text " * @param \x7bobject\x7d [options]\n",
  .loop "param" (.name "option_params") [
    .text " * @param ", .output (field "param" "type"), .text " [options.",
    .output (field "param" "name"), .text "] - ", .output (field "param" "description"),
    .text "\n"],
  .text " */\n",
  .text "async function ", put "action_name", .text "(", put "app_object",
  .text ", testDataPath, options = \x7b\x7d) \x7b\n",
  .text "  const ctx = TestContext.load(META, testDataPath);\n",
  .text "  const storedVars = \x7b\x7d;\n",
  .text "  const now = new Date().toISOString();\n",
  .branch (.name "previous_status") [
    .text "\n",
    .text "  const planner = new TestPlanner(\x7b verbose: true \x7d);\n",
    .text "  planner.checkOrThrow(META, ctx.data);\n"] [],
  .branch (.name "imports") [
    .text "\n",
    .loop "ref" (.name "imports") [
      .text "  const ", .output (field "ref" "var_name"), .text " = new ",
      .output (field "ref" "class_name"), .text "(", put "app_object", .text ");\n"]] [],
  .text "\n"]

/-- Navigation, the action, and the checks of every screen. -/
def statements : List Node := [
  .text "  // Navigation\n",
  .output (indented (.name "navigation_lines") 1), .text "\n",
  .text "\n",
  .text "  // Action",
  .branch (.name "action_description") [.text ": ", put "action_description"] [], .text "\n",
  .branch (.name "action_lines") [.output (indented (.name "action_lines") 1), .text "\n"] [],
  .branch (.name "action_hint_lines") [
    .output (indented (.name "action_hint_lines") 1), .text "\n"] [],
  .loop "screen" (.name "screens") [
    .text "\n",
    .text "  // Screen: ", .output (field "screen" "screen_key"), .text " (",
    .output (field "screen" "mode"),
    .branch (field "screen" "mode_reason") [
      .text ": ", .output (field "screen" "mode_reason")] [],
    .text ")\n",
    .text "  // ", .output (field "screen" "summary"), .text "\n",
    .branch (field "screen" "downgraded_from") [
      .text "  // Raw mode (", .output (field "screen" "downgraded_from"),
      .text ") not available on ", put "platform", .text "\n"] [],
    .branch (.name "is_native") [
      .output (indented (field "screen" "lines") 1), .text "\n"] [
      .text "  await test.step(",
      .output (js (.concat (text "Validate ") (field "screen" "screen_key"))),
      .text ", async () => \x7b\n",
      .output (indented (field "screen" "lines") 2), .text "\n",
      .text "  \x7d);\n"]]]

/-- The change that is written to the test data. -/
def saving : List Node := [
  .text "\n",
  .text "  await ctx.executeAndSave(", .output (js (.name "change_log_label")), .text ", ",
  .output (js (.name "test_file_name")), .text ", async () => \x7b\n",
  .text "    const delta = \x7b\n",
  .loop "field" (.name "delta_fields") [
    .text "      ", .output (field "field" "key"), .text ": ", .output (field "field" "value"),
    .text ",\n"],
  .text "    \x7d;\n",
  .branch (.name "has_entity_logic") [
    .text "    const indices = options.indices || [options.index ?? 0];\n",
    .text "    const items = ctx.data.", put "entity_collection", .text " || [];\n",
    .text "    return \x7b\n",
    .text "      ", put "entity_collection",
    .text ": items.map((item, i) => (indices.includes(i) ? \x7b ...item, ...delta \x7d : item)),\n",
    .text "    \x7d;\n"] [
    .text "    return delta;\n"],
  .text "  \x7d);\n",
  .text "\n",
  .text "  return \x7b success: true, storedVars \x7d;\n",
  .text "\x7d\n"]

/-- The test cases that call the function. -/
def cases : List Node := [
  .text "\n",
  .branch (.name "is_native") [
    .text "describe(", .output (js (.name "test_description")), .text ", () => \x7b\n",
    .loop "case" (.name "test_cases") [
      .text "  it(", .output (js (field "case" "description")), .text ", async () => \x7b\n",
      .text "    const testDataPath = process.env.TEST_DATA_PATH || ",
      .output (js (.name "default_test_data_path")), .text ";\n",
      .text "    await ", put "action_name", .text "(browser, testDataPath",
      .branch (field "case" "params") [
        .text ", \x7b ", .output (field "case" "params"), .text " \x7d"] [],
      .text ");\n",
      .text "  \x7d);\n"],
    .text "\x7d);\n"] [
    .text "test.describe(", .output (js (.name "test_description")), .text ", () => \x7b\n",
    .loop "case" (.name "test_cases") [
      .text "  test(", .output (js (field "case" "description")),
      .text ", async (\x7b page \x7d) => \x7b\n",
      .text "    const testDataPath = process.env.TEST_DATA_PATH || ",
      .output (js (.name "default_test_data_path")), .text ";\n",
      .text "    await ", put "action_name", .text "(page, testDataPath",
      .branch (field "case" "params") [
        .text ", \x7b ", .output (field "case" "params"), .text " \x7d"] [],
      .text ");\n",
      .text "  \x7d);\n"],
    .text "\x7d);\n"],
  .text "\n",
  .text "module.exports = \x7b ", put "action_name", .text ", META \x7d;\n"]

def nodes : List Node :=
  header ++ requires ++ functionHead ++ statements ++ saving ++ cases

end ScreenFlow.Template.UnitTest
