import TopicOperator.Log
import TopicOperator.Telemetry.FileTree
import TopicOperator.Text.Quoted
import TopicOperator.TextMap.Basic

/-!
# The cluster

How the API server is looked for: a configuration file names it, and where there is no such file the
operator takes itself to run inside of the cluster.
-/

namespace TopicOperator

namespace Cluster

/-- The variable of the environment that holds the home directory. -/
def homeVariable : String := "HOME"

/-- The variable of the environment that names configuration files, with colons between them. -/
def configurationVariable : String := "KUBECONFIG"

/-- The home directory of a user that has none. -/
def homelessDirectory : String := "/nonexistent"

/-- The configuration file in a home directory. -/
def defaultFile (home : String) : String :=
  home ++ (if home.isEmpty || home.toList.getLast? = some '/' then "" else "/") ++ ".kube/config"

/-- The configuration file that is looked for first. -/
def configurationFile (environment : TextMap String) : String :=
  let named := ((environment.get? configurationVariable).getD "").toList.splitOn ':'
  match named.filter (· ≠ []) with
  | file :: _ => String.ofList file
  | [] => defaultFile ((environment.get? homeVariable).getD homelessDirectory)

/-- Why the configuration file at a path cannot be read: there is none, or there is a directory. -/
def obstacle (tree : FileTree) (file : String) : String :=
  if (tree.find? file).isSome then "Is a directory (os error 21)"
  else "No such file or directory (os error 2)"

/-- The event of a configuration file that cannot be read. -/
def missingEvent (environment : TextMap String) (tree : FileTree) : TargetedEvent :=
  let file := configurationFile environment
  { target := "kube_client::config"
    event := {
      level := .trace
      message := "no local config found, falling back to local in-cluster config"
      fields := [("error", "failed to read kubeconfig from '" ++ Text.quotedPath file ++ "': " ++
        obstacle tree file)] } }

end Cluster

end TopicOperator
