import RuleOverlay.Loader
import RuleOverlay.Tree.Shape
/-! # The rules inspector

The inspector loads the configured rules file into a forest and prints what the engine sees:
the forest summary, the structure of the configured tree as indented JSON, and, when a path is
given, the document realized there. With `--watch` (or `-w`) it then keeps refreshing the
forest from the file until it is interrupted, and prints the summary once more.

The configuration comes from the environment (`RULES_FILE`, `RULE_TREE_NAME`,
`REFRESH_INTERVAL`, `SHUTDOWN_TIMEOUT`). A configuration that does not validate, or a tree
that did not build, ends the run with status 1 and `Error: ...`. Every argument that is not a
watch flag is a path; the last one counts.
-/
namespace RuleOverlay

/-- What a run printed and how it ended. When `watch` holds lines, the run goes on refreshing
until it is interrupted, then prints those lines and ends with status 0. -/
structure Report where
  status : Nat
  stdout : List String
  stderr : List String
  watch : Option (List String)

namespace Inspect

def parseArgs (args : List String) : Bool × Option String :=
  args.foldl (fun (watch, query) arg =>
    if arg == "--watch" || arg == "-w" then (true, query) else (watch, some arg)) (false, none)

def failure (stdout : List String) (message : String) : Report :=
  ⟨1, stdout, ["Error: " ++ message], none⟩

def run (env : String → Option String) (args : List String) (disk : Disk) (now : Timestamp) :
    Report :=
  let (watch, query) := parseArgs args
  match EngineConfig.fromLookup env with
  | .error e => failure [] e.message
  | .ok config =>
    let build : Unit → StateM Grove Outcome := fun _ => defaultBuild disk config .standard now
    let (forest, grove) := (Forest.new build [()]).run Grove.empty
    let summary := forest.info
    match forest.get? config.treeName with
    | none => failure [summary] ("tree '" ++ config.treeName ++ "' failed to build")
    | some root =>
      let shown := [summary, (Tree.outline grove root).pretty 0]
      let doc : Except String (List String) := match query with
        | none => .ok []
        | some path =>
          match (Tree.getDoc root path).run.run grove with
          | (.ok bytes, _) => .ok [Utf8.decodeLossy bytes]
          | (.error (.error e), _) => .error e.message
          | (.error (.panic m), _) => .error m
      match doc with
      | .error message => failure shown message
      | .ok lines =>
        ⟨0, shown ++ lines, [], if watch then some [forest.info] else none⟩

end Inspect

end RuleOverlay
