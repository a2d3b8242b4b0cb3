import RealmDriver.Settings.CommandLine

namespace RealmDriver

def programName : String := "panfs-csi"

def usage : String :=
  let line (s : Setting) : String :=
    s!"  --{s.option}" ++ (if s.isFlag then "" else " <VALUE>") ++ s!"  [env: {s.environment}]"
  "\n".intercalate
    ([s!"Usage: {programName} [OPTIONS]", "", "Options:"] ++ Setting.all.map line
      ++ ["  -h, --help", "  -V, --version"])

def Mode.text : Mode → String
  | .controller => "controller"
  | .node => "node"
  | .all => "all"

def Settings.text (s : Settings) : String :=
  let value : Setting → String
    | .endpoint => s.endpoint.text
    | .mode => s.mode.text
    | .driverName => s.driverName
    | .nodeId => s.nodeId.getD ""
    | .logLevel => s.logLevel
    | .keyManagerDirectory => s.keyManagerDirectory
    | .fakeMounter => toString s.fakeMounter
    | .labelNode => toString s.labelNode
    | .nodeLabel => s.nodeLabel
    | .connectTimeout => toString s.connectTimeout
    | .knownHosts => s.knownHosts.getD ""
  "\n".intercalate (Setting.all.map fun setting ↦ s!"{setting.option}={value setting}")

end RealmDriver

open RealmDriver in
def main (words : List String) : IO UInt32 := do
  let environment ← Setting.all.filterMapM fun s ↦ do
    return (← IO.getEnv s.environment).map fun text ↦ (s.environment, text)
  match CommandLine.read words (Dictionary.ofList environment) with
  | .ok settings =>
    IO.println settings.text
    return 0
  | .error .helpWanted =>
    IO.println usage
    return 0
  | .error .versionWanted =>
    IO.println s!"{programName} {Plugin.version}"
    return 0
  | .error fault =>
    IO.eprintln s!"error: {fault.message}"
    return 2
