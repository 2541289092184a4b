import DesignLint.CommandLine.Response

namespace DesignLint

structure Session where
  workspace : Workspace
  given : Environment := []

namespace Session

def environment (s : Session) : Environment :=
  match s.workspace.content? (.read ".env") with
  | some content => s.given.completedBy (.ofText (Text.Utf8.decode content.toBytes))
  | none => s.given

def settingsAt (s : Session) (path : String) (required : Bool) : Except ConfigError Settings :=
  let p := Segments.read path
  Settings.load p.text ((s.workspace.content? p).map Content.toBytes) required

def settingsFor (s : Session) (r : CheckRequest) : Except ConfigError Settings :=
  match r.config with
  | some path => s.settingsAt path true
  | none => s.settingsAt s.environment.rulesFile false

def depthFor (s : Session) (r : CheckRequest) : Except ConfigError Int :=
  match r.maxDepth with
  | some n => .ok n
  | none => s.environment.maxDepth

def engineFor (s : Session) (r : CheckRequest) : Except ConfigError Engine := do
  let settings ← s.settingsFor r
  let detectors ← Detector.build settings r.only
  let limit ← s.depthFor r
  return { detectors, limit, probe := s.workspace.probe }

def targetsOf (r : CheckRequest) : List Segments :=
  if r.paths.isEmpty then [.read "."] else r.paths.map .read

def levelFor (s : Session) (r : CheckRequest) : Except ConfigError LogLevel :=
  LogLevel.named (if r.verbose then "DEBUG" else s.environment.logLevel)

def reportOf (s : Session) (e : Engine) (targets : List Segments) : CheckReport :=
  let files := s.workspace.discover targets
  ⟨files.length, (s.workspace.analyzeAll e files).1.diagnostics⟩

def check (s : Session) (r : CheckRequest) : Response :=
  match s.levelFor r with
  | .error e => .ofError e
  | .ok _ =>
    match (targetsOf r).find? fun p => !s.workspace.isThere p with
    | some p => .fault ("Path does not exist: " ++ p.text)
    | none =>
      match s.engineFor r with
      | .error e => .ofError e
      | .ok engine => (s.reportOf engine (targetsOf r)).respond r.format

def run (s : Session) (words : List String) : Response :=
  match Command.read? words with
  | none => { exitCode := 2 }
  | some .help => { exitCode := 0 }
  | some .version => { exitCode := 0, output := versionLine }
  | some .rules => { exitCode := 0, shown := [.grid ruleGrid] }
  | some (.check r) => s.check r
  | some (.unusable fault) => .broken (.unusablePath fault)

end Session

end DesignLint
