import Samaktha.Contracts.Planning
import Samaktha.Runtime.Governance

/-!
# The shell

`ToolSecurityEnforcer._validate_shell`, which parses a command and checks it against the shell
policy, and `ShellTool.run`, which launches what it finds in the dictionary of arguments that the
enforcer has extended.

What the file system and the operating system do with paths and with the case of a variable's name
is given by a `ShellPlatform`, whatever it is.
-/

namespace Samaktha

/-- A path, by its text, which is never empty. -/
@[ext]
structure PurePath where
  text : String
  nonempty : text ≠ ""
  deriving DecidableEq

/-- The functions of the platform on paths and names. -/
structure ShellPlatform where
  /-- `Path(text)`. -/
  path : String → PurePath
  isAbsolute : PurePath → Bool
  parts : PurePath → List String
  /-- `root / path`. -/
  join : PurePath → PurePath → PurePath
  /-- `_canonical`: without symbolic links; `none` where that raises. -/
  canonical : PurePath → Option PurePath
  /-- `_norm`. -/
  norm : PurePath → String
  /-- `os.path.commonpath` of two paths; `none` where it raises `ValueError`. -/
  commonpath : String → String → Option String
  /-- `str.upper`. -/
  upper : String → String
  /-- `str` of a value that is not a text. -/
  textOf : Value → String
  /-- Whether `float` accepts a value. -/
  isFloat : Value → Bool

/-- Configured shell execution scope and resource limits. -/
structure ShellSecurityPolicy where
  allowedExecutables : List String := []
  allowedRoots : List PurePath := []
  defaultRoot : Option PurePath := none
  maxPathLength : ℕ := 4096
  allowedEnvVars : List String := ["PATH", "SYSTEMROOT", "TEMP", "TMP", "HOME", "USERPROFILE"]

namespace Shell

/-- The reasons with which a shell request is denied. -/
inductive Reason where
  | unsupportedPath
  | executableDenied
  | argumentDenied
  | cwdDenied
  | envDenied
  deriving Repr, DecidableEq

/-- A request that is not allowed: a denial, or an exception. -/
inductive Refusal where
  | denied (reason : Reason) (message : String)
  | raised
  deriving Repr, DecidableEq

/-- A decision that allows a request. -/
structure Allowed where
  normalizedArguments : Inputs
  normalizedTarget : Option PurePath
  scopeRoot : Option PurePath

variable (platform : ShellPlatform)

def str (value : Value) : String := value.str?.getD (platform.textOf value)

/-! ## `shlex.split` -/

/-- The characters between the words of a command. -/
def isBlank (c : Char) : Bool := c = ' ' || c = '\t' || c = '\r' || c = '\n'

/-- Where a lexer that is not in POSIX mode stands. -/
inductive Lexer where
  | between
  | word (read : List Char)
  | quoted (quote : Char) (read : List Char)

/-- The words of a command from where a lexer stands, with their quotes; `none` where a quotation
is not closed. -/
def lex : Lexer → List Char → Option (List String)
  | .between, [] => some []
  | .word read, [] => some [String.ofList read]
  | .quoted _ _, [] => none
  | .between, c :: cs =>
      if isBlank c then lex .between cs
      else if c = '\'' || c = '"' then lex (.quoted c [c]) cs
      else lex (.word [c]) cs
  | .word read, c :: cs =>
      if isBlank c then (lex .between cs).map (String.ofList read :: ·)
      else lex (.word (read ++ [c])) cs
  | .quoted quote read, c :: cs =>
      if c = quote then (lex .between cs).map (String.ofList (read ++ [c]) :: ·)
      else lex (.quoted quote (read ++ [c])) cs

/-- `shlex.split(command, posix=False)`. -/
def split (command : String) : Option (List String) := lex .between command.toList

/-! ## Paths -/

/-- `text.strip(c)` for one character. -/
def stripChar (c : Char) (text : String) : String :=
  String.ofList (((text.toList.dropWhile (· = c)).reverse.dropWhile (· = c)).reverse)

/-- A letter of `[a-z]` where case is ignored. -/
def isDriveLetter (c : Char) : Bool :=
  c.isAlpha || c.toNat = 0x130 || c.toNat = 0x131 || c.toNat = 0x17F || c.toNat = 0x212A

/-- A path on a drive that does not begin at its root. -/
def isDriveRelative (text : String) : Bool :=
  match text.toList with
  | letter :: ':' :: c :: _ => isDriveLetter letter && c ≠ '\\' && c ≠ '/'
  | _ => false

def deviceNames : List String :=
  ["con", "prn", "aux", "nul"] ++
    ["1", "2", "3", "4", "5", "6", "7", "8", "9"].flatMap fun digit =>
      ["com" ++ digit, "lpt" ++ digit]

/-- `_WINDOWS_DEVICE` on a part of a path, without the spaces and dots at its end. -/
def isDevice (part : String) : Bool :=
  let stripped := (part.toList.reverse.dropWhile fun c => c = ' ' || c = '.').reverse
  let line := if stripped.getLast? = some '\n' then stripped.dropLast else stripped
  let name := line.takeWhile (· ≠ '.')
  deviceNames.contains (Text.lower (String.ofList name)) && !line.contains '\n'

def inside (path root : PurePath) : Bool :=
  platform.commonpath (platform.norm path) (platform.norm root) = some (platform.norm root)

def insideAny (path : PurePath) (roots : List PurePath) : Bool := roots.any (inside platform path)

/-- The first allowed root a path lies in. -/
def scopeOf (path : PurePath) (roots : List PurePath) : Option PurePath :=
  roots.find? (inside platform path)

/-- The text of a working directory, without blanks and quotes around it. -/
def cwdText (raw : String) : String :=
  let text := stripChar '\'' (stripChar '"' (Text.strip raw))
  if text = "" then "." else text

/-- The first check of `_resolve_shell_cwd` that the text of a working directory fails. -/
def cwdRefusal (policy : ShellSecurityPolicy) (text : String) : Option Refusal :=
  let lowered := Text.replaceChar '/' '\\' (Text.lower text)
  if text.length > policy.maxPathLength || text.toList.contains '\x00' then
    some (.denied .unsupportedPath "Shell cwd path is unsupported.")
  else if isDriveRelative text then
    some (.denied .unsupportedPath "Drive-relative shell cwd paths are not permitted.")
  else if lowered.startsWith "\\\\?\\" || lowered.startsWith "\\\\.\\" then
    some (.denied .unsupportedPath "Windows device paths are not permitted.")
  else if lowered.startsWith "\\\\" &&
      !policy.allowedRoots.any (fun root => root.text.startsWith "\\\\") then
    some (.denied .cwdDenied "UNC cwd paths are outside the permitted workspace.")
  else if text.toList.contains '%' || text.startsWith "~" || text.toList.contains '$' then
    some (.denied .unsupportedPath "Shell cwd path expansion is not permitted.")
  else if (platform.parts (platform.path text)).any isDevice then
    some (.denied .unsupportedPath "Windows special-device names are not permitted.")
  else none

/-- A relative working directory starts at the default root. -/
def rooted (policy : ShellSecurityPolicy) (candidate : PurePath) : Except Refusal PurePath :=
  if platform.isAbsolute candidate then .ok candidate
  else match policy.defaultRoot with
    | none => .error (.denied .cwdDenied "Shell cwd requires a default root.")
    | some root => .ok (platform.join root candidate)

/-- `_resolve_shell_cwd`: the path and the root it lies in. -/
def resolveShellCwd (policy : ShellSecurityPolicy) (raw : String) :
    Except Refusal (PurePath × PurePath) :=
  match cwdRefusal platform policy (cwdText raw) with
  | some refusal => .error refusal
  | none =>
      match rooted platform policy (platform.path (cwdText raw)) with
      | .error refusal => .error refusal
      | .ok candidate =>
          match platform.canonical candidate with
          | none => .error .raised
          | some target =>
              match scopeOf platform target policy.allowedRoots with
              | none => .error (.denied .cwdDenied "Shell cwd is outside the permitted workspace.")
              | some scope => .ok (target, scope)

/-! ## The enforcer -/

/-- The entries that `dict(value)` gives; `none` where that raises, also for a pair whose key is
not a text. -/
def entries? : Value → Option (Dict Key Value)
  | .dict kvs | .model kvs => some kvs
  | value => value.items?.bind fun items => items.mapM fun item =>
      match item.items? with
      | some [key, value] => key.str?.map fun key => (Key.str key, value)
      | _ => none

/-- The value under a key, or another one. -/
def argument (arguments : Inputs) (key : String) (default : Value) : Value :=
  (Dict.get? arguments key).getD default

/-- The executable and the arguments that the enforcer parses; the first part of the command in
lower case, and the other parts with the extra arguments. -/
def parseCommand (arguments : Inputs) : Except Refusal (String × List String) :=
  let command := Text.strip (str platform (argument arguments "command" (.str "")))
  if command = "" then .error (.denied .argumentDenied "Shell command is required.")
  else match split command with
    | none => .error (.denied .argumentDenied "Shell command parsing failed.")
    | some [] => .error (.denied .argumentDenied "Shell command is empty after parsing.")
    | some (first :: rest) =>
        match (argument arguments "args" (.tuple [])).items? with
        | none => .error .raised
        | some extra => .ok (Text.lower first, rest ++ extra.map (str platform))

/-- The working directory that is asked for, if there is one. -/
def requestedCwd (shellCwd : Option String) (arguments : Inputs) : Option String :=
  match (Dict.get? arguments "cwd").filter Value.truthy with
  | some cwd => some (str platform cwd)
  | none => shellCwd.filter (· ≠ "")

/-- The working directory of a request: the one that is asked for, resolved, or the default. -/
def cwdOf (policy : ShellSecurityPolicy) (shellCwd : Option String) (arguments : Inputs) :
    Except Refusal (Option PurePath) :=
  match requestedCwd platform shellCwd arguments with
  | some cwd => (resolveShellCwd platform policy cwd).map fun resolved => some resolved.1
  | none => .ok policy.defaultRoot

/-- Whether a variable's name is in a list, whatever its case. -/
def namedIn (names : List String) (key : String) : Bool :=
  (names.map platform.upper).contains (platform.upper key)

/-- The check of the variables' names, one after the other. -/
def checkEnv (names : List String) : Dict Key Value → Except Refusal Unit
  | [] => .ok ()
  | (.other _ _, _) :: _ => .error .raised
  | (.str key, _) :: env =>
      if namedIn platform names key then checkEnv names env
      else .error (.denied .envDenied
        ("Environment variable '" ++ key ++ "' is not in the allowed list."))

/-- `str` of an optional path. -/
def pathText : Option PurePath → String
  | some path => path.text
  | none => "None"

/-- The arguments that the enforcer hands on. -/
def normalize (arguments : Inputs) (executable : String) (args : List String)
    (cwd : Option PurePath) (env : Dict Key Value) : Inputs :=
  let argv := Value.list (args.map Value.str)
  Dict.update arguments [
    ("command", .str executable),
    ("args", argv),
    ("_parsed_executable", .str executable),
    ("_parsed_args", argv),
    ("_validated_cwd", .str (pathText cwd)),
    ("_validated_env", .dict env)]

/-- `_validate_shell`, where `shellCwd` is the working directory of the context. -/
def validateShell (policy : ShellSecurityPolicy) (shellCwd : Option String) (arguments : Inputs) :
    Except Refusal Allowed :=
  match parseCommand platform arguments with
  | .error refusal => .error refusal
  | .ok (executable, args) =>
      if !policy.allowedExecutables.isEmpty && !policy.allowedExecutables.contains executable then
        .error (.denied .executableDenied
          ("Shell executable '" ++ executable ++ "' is not in the allowed list."))
      else match cwdOf platform policy shellCwd arguments with
        | .error refusal => .error refusal
        | .ok cwd =>
            match entries? (argument arguments "env" (.dict [])) with
            | none => .error .raised
            | some items =>
                let env := Dict.ofList items
                match checkEnv platform policy.allowedEnvVars env with
                | .error refusal => .error refusal
                | .ok () => .ok {
                    normalizedArguments := normalize arguments executable args cwd env
                    normalizedTarget := cwd
                    scopeRoot := cwd }

/-! ## The tool -/

def denylist : List String := [
  "rm -rf /", "rm -rf *", "deltree", "del /f /s /q", "format c:", "format /q", "mkfs", "dd if=",
  "shutdown", "reboot", "--no-preserve-root", "diskpart", "reg delete",
  ":()\x7b:|:&\x7d;:"]

/-- The variables of the process that a command inherits. -/
def inheritedEnvVars : List String :=
  ["PATH", "SYSTEMROOT", "TEMP", "TMP", "HOME", "USERPROFILE", "COMSPEC", "PATHEXT"]

def baseEnv (environ : Dict String String) : Dict String String :=
  environ.filter fun entry => inheritedEnvVars.contains (platform.upper entry.1)

/-- A process that the tool launches. -/
structure Launch where
  argv : List String
  cwd : Option Value
  env : Dict String Value

/-- A value that is given and not `None`. -/
def given (arguments : Inputs) (key : String) : Option Value :=
  (Dict.get? arguments key).filter fun value => !value.isNone

/-- The command line of a process; `none` where there is none. -/
def commandLine (arguments : Inputs) (command : String) : Option (List String) :=
  match given arguments "_parsed_executable", given arguments "_parsed_args" with
  | some executable, some args =>
      args.items?.map fun items => str platform executable :: items.map (str platform)
  | _, _ =>
      match split command with
      | none | some [] => none
      | some parts => some parts

/-- A truthy value under one key, or else the value under another one. -/
def truthyOr (arguments : Inputs) (key other : String) : Option Value :=
  ((Dict.get? arguments key).filter Value.truthy).or (Dict.get? arguments other)

/-- The entries of an environment; `none` where a name is not a text, so that no process can be
started with it. -/
def textEntries? (env : Dict Key Value) : Option (Dict String Value) :=
  env.mapM fun entry =>
    match entry.1 with
    | .str key => some (key, entry.2)
    | .other _ _ => none

/-- `ShellTool.run`, up to the launch of a process; `none` where none is launched. -/
def run (environ : Dict String String) (arguments : Inputs) : Option Launch :=
  let command := Text.strip (str platform (argument arguments "command" (.str "")))
  if !platform.isFloat (argument arguments "timeout_s" (.int 15)) then none
  else if command = "" then none
  else if (Dict.get? arguments "_parsed_executable").isNone &&
      denylist.any (Text.contains (Text.strip (Text.lower command))) then none
  else match commandLine platform arguments command with
    | none => none
    | some argv =>
        let overrides := ((truthyOr arguments "_validated_env" "env").filter Value.truthy).getD
          (.dict [])
        match (entries? overrides).bind textEntries? with
        | none => none
        | some items => some {
            argv := argv
            cwd := truthyOr arguments "_validated_cwd" "cwd"
            env := Dict.update
              ((baseEnv platform environ).map fun entry => (entry.1, Value.str entry.2)) items }

/-! ## Confinement -/

/-- What a launch must meet under a policy: its executable is in the configured list, its
arguments are the ones that were parsed, its working directory lies in an allowed root, and every
variable of its environment is one of the base environment or in the allowed list. -/
structure Confined (policy : ShellSecurityPolicy) (environ : Dict String String)
    (arguments : Inputs) (launch : Launch) : Prop where
  executable : ∃ executable ∈ policy.allowedExecutables, launch.argv.head? = some executable
  argv : ∃ executable args, parseCommand platform arguments = .ok (executable, args) ∧
    launch.argv = executable :: args
  cwd : ∃ path : PurePath, launch.cwd = some (.str path.text) ∧
    insideAny platform path policy.allowedRoots = true
  env : ∀ key ∈ Dict.keys launch.env, key ∈ Dict.keys (baseEnv platform environ) ∨
    namedIn platform policy.allowedEnvVars key = true

/-- The directory a process is started in where none is asked for: the default root, or, without
one, the directory `None`. -/
def defaultCwd (policy : ShellSecurityPolicy) : PurePath :=
  policy.defaultRoot.getD ⟨"None", by decide⟩

variable {platform} {policy : ShellSecurityPolicy} {shellCwd : Option String} {arguments : Inputs}

lemma validateShell_eq_ok {allowed : Allowed}
    (h : validateShell platform policy shellCwd arguments = .ok allowed) :
    ∃ executable args cwd items,
      parseCommand platform arguments = .ok (executable, args) ∧
      (policy.allowedExecutables ≠ [] → executable ∈ policy.allowedExecutables) ∧
      cwdOf platform policy shellCwd arguments = .ok cwd ∧
      entries? (argument arguments "env" (.dict [])) = some items ∧
      checkEnv platform policy.allowedEnvVars (Dict.ofList items) = .ok () ∧
      allowed.normalizedArguments =
        normalize arguments executable args cwd (Dict.ofList items) := by
  unfold validateShell at h
  split at h
  · cases h
  · rename_i executable args hparse
    split at h
    · cases h
    · rename_i hlisted
      have hmem : policy.allowedExecutables ≠ [] → executable ∈ policy.allowedExecutables := by
        intro hne
        simpa [hne] using hlisted
      split at h
      · cases h
      · rename_i cwd hcwd
        split at h
        · cases h
        · rename_i items hitems
          dsimp only at h
          split at h
          · cases h
          · rename_i hchecked
            obtain rfl := Except.ok.inj h
            exact ⟨executable, args, cwd, items, hparse, hmem, hcwd, hitems, hchecked, rfl⟩

/-! ## What the tool reads of it -/

section

variable (arguments : Inputs) (executable : String) (args : List String) (cwd : Option PurePath)
  (env : Dict Key Value)

lemma get?_normalize_executable :
    Dict.get? (normalize arguments executable args cwd env) "_parsed_executable" =
      some (.str executable) := by
  unfold normalize
  rw [Dict.get?_update]
  rfl

lemma get?_normalize_args :
    Dict.get? (normalize arguments executable args cwd env) "_parsed_args" =
      some (.list (args.map Value.str)) := by
  unfold normalize
  rw [Dict.get?_update]
  rfl

lemma get?_normalize_cwd :
    Dict.get? (normalize arguments executable args cwd env) "_validated_cwd" =
      some (.str (pathText cwd)) := by
  unfold normalize
  rw [Dict.get?_update]
  rfl

lemma get?_normalize_env :
    Dict.get? (normalize arguments executable args cwd env) "_validated_env" =
      some (.dict env) := by
  unfold normalize
  rw [Dict.get?_update]
  rfl

lemma get?_normalize_given :
    Dict.get? (normalize arguments executable args cwd env) "env" =
      Dict.get? arguments "env" := by
  unfold normalize
  rw [Dict.get?_update]
  rfl

end

lemma pathText_ne (cwd : Option PurePath) : pathText cwd ≠ "" := by
  cases cwd with
  | none => decide
  | some path => exact path.nonempty

lemma commandLine_normalize (arguments : Inputs) (executable : String) (args : List String)
    (cwd : Option PurePath) (env : Dict Key Value) (command : String) :
    commandLine platform (normalize arguments executable args cwd env) command =
      some (executable :: args) := by
  unfold commandLine given
  rw [get?_normalize_executable, get?_normalize_args]
  show some (executable :: (args.map Value.str).map (str platform)) = _
  rw [List.map_map]
  exact congrArg (fun texts => some (executable :: texts)) (List.map_id' args)

lemma cwd_normalize (arguments : Inputs) (executable : String) (args : List String)
    (cwd : Option PurePath) (env : Dict Key Value) :
    truthyOr (normalize arguments executable args cwd env) "_validated_cwd" "cwd" =
      some (.str (pathText cwd)) := by
  have htruthy : (Value.str (pathText cwd)).truthy = true := decide_eq_true (pathText_ne cwd)
  unfold truthyOr
  rw [get?_normalize_cwd, Option.filter_some, if_pos htruthy]
  rfl

lemma overrides_normalize {items : Dict Key Value} (executable : String) (args : List String)
    (cwd : Option PurePath) (hitems : entries? (argument arguments "env" (.dict [])) = some items) :
    ∃ read, entries? (((truthyOr (normalize arguments executable args cwd (Dict.ofList items))
        "_validated_env" "env").filter Value.truthy).getD (.dict [])) = some read ∧
      ∀ entry ∈ read, entry ∈ Dict.ofList items := by
  unfold truthyOr
  rw [get?_normalize_env, get?_normalize_given]
  cases hempty : Dict.ofList items with
  | cons entry rest => exact ⟨entry :: rest, rfl, fun _ h => h⟩
  | nil =>
      -- nothing was checked, since nothing was given, and the tool falls back on what was given
      obtain rfl : items = [] := by
        cases items with
        | nil => rfl
        | cons entry rest =>
            have hkey : entry.1 ∈ Dict.keys (Dict.ofList (entry :: rest)) :=
              Dict.mem_keys_update.mpr (.inr List.mem_cons_self)
            rw [hempty] at hkey
            cases hkey
      refine ⟨[], ?_, fun _ h => h⟩
      unfold argument at hitems
      cases hgiven : Dict.get? arguments "env" with
      | none => rfl
      | some value =>
          rw [hgiven] at hitems
          show entries? (((some value).filter Value.truthy).getD (.dict [])) = some []
          rw [Option.filter_some]
          split
          · exact hitems
          · rfl

lemma textEntries?_mem {env : Dict Key Value} {entries : Dict String Value}
    (h : textEntries? env = some entries) {key : String} (hkey : key ∈ Dict.keys entries) :
    ∃ value, (Key.str key, value) ∈ env := by
  induction env generalizing entries with
  | nil =>
      obtain rfl : [] = entries := Option.some.inj h
      cases hkey
  | cons entry env ih =>
      unfold textEntries? at h
      rw [List.mapM_cons] at h
      obtain ⟨first, hfirst, h⟩ := Option.bind_eq_some_iff.mp h
      obtain ⟨rest, hrest, h⟩ := Option.bind_eq_some_iff.mp h
      obtain rfl : first :: rest = entries := Option.some.inj h
      rcases List.mem_cons.mp hkey with rfl | hkey
      · obtain ⟨name, value⟩ := entry
        cases name with
        | other type text => cases hfirst
        | str name =>
            obtain rfl : (name, value) = first := Option.some.inj hfirst
            exact ⟨value, List.mem_cons_self⟩
      · obtain ⟨value, hmem⟩ := ih hrest hkey
        exact ⟨value, List.mem_cons_of_mem _ hmem⟩

lemma namedIn_of_checkEnv {names : List String} {env : Dict Key Value} {key : String}
    {value : Value} (h : checkEnv platform names env = .ok ()) (hmem : (Key.str key, value) ∈ env) :
    namedIn platform names key = true := by
  induction env with
  | nil => cases hmem
  | cons entry env ih =>
      obtain ⟨name, held⟩ := entry
      cases name with
      | other type text => cases h
      | str name =>
          unfold checkEnv at h
          split at h
          · rename_i hnamed
            rcases List.mem_cons.mp hmem with heq | hmem
            · obtain ⟨hname, -⟩ := Prod.mk.inj heq
              rw [Key.str.inj hname]
              exact hnamed
            · exact ih h hmem
          · cases h

lemma insideAny_of_resolveShellCwd {raw : String} {resolved : PurePath × PurePath}
    (h : resolveShellCwd platform policy raw = .ok resolved) :
    insideAny platform resolved.1 policy.allowedRoots = true := by
  unfold resolveShellCwd at h
  split at h
  · cases h
  · split at h
    · cases h
    · split at h
      · cases h
      · split at h
        · cases h
        · rename_i hscope
          obtain rfl := Except.ok.inj h
          exact List.any_eq_true.mpr
            ⟨_, List.mem_of_find?_eq_some hscope, List.find?_some hscope⟩

/-- What is launched for the arguments that the enforcer hands on: the command line it parsed, in
the directory it checked, with variables that are inherited or that it checked. -/
lemma run_normalize {environ : Dict String String} {executable : String} {args : List String}
    {cwd : Option PurePath} {items : Dict Key Value} {launch : Launch}
    (hitems : entries? (argument arguments "env" (.dict [])) = some items)
    (h : run platform environ (normalize arguments executable args cwd (Dict.ofList items)) =
      some launch) :
    launch.argv = executable :: args ∧ launch.cwd = some (.str (pathText cwd)) ∧
      ∀ key ∈ Dict.keys launch.env, key ∈ Dict.keys (baseEnv platform environ) ∨
        ∃ value, (Key.str key, value) ∈ Dict.ofList items := by
  unfold run at h
  dsimp only at h
  split at h
  · cases h
  split at h
  · cases h
  split at h
  · cases h
  rw [commandLine_normalize, cwd_normalize] at h
  dsimp only at h
  obtain ⟨read, hread, hchecked⟩ := overrides_normalize executable args cwd hitems
  rw [hread, Option.bind_some] at h
  split at h
  · cases h
  · rename_i entries hentries
    obtain rfl := Option.some.inj h
    refine ⟨rfl, rfl, fun key hkey => ?_⟩
    rcases Dict.mem_keys_update.mp hkey with hbase | hentry
    · refine .inl ?_
      unfold Dict.keys at hbase
      rw [List.map_map] at hbase
      exact hbase
    · obtain ⟨value, hmem⟩ := textEntries?_mem hentries hentry
      exact .inr ⟨value, hchecked _ hmem⟩

/-- The directory of an allowed request: one in an allowed root where one is asked for, and the
default directory otherwise. -/
lemma cwdOf_eq_ok {cwd : Option PurePath} (h : cwdOf platform policy shellCwd arguments = .ok cwd) :
    ((requestedCwd platform shellCwd arguments).isSome ∧
        ∃ path, cwd = some path ∧ insideAny platform path policy.allowedRoots = true) ∨
      (requestedCwd platform shellCwd arguments = none ∧
        pathText cwd = (defaultCwd policy).text) := by
  unfold cwdOf at h
  split at h
  · rename_i raw hraw
    left
    cases hresolved : resolveShellCwd platform policy raw with
    | error refusal =>
        rw [hresolved] at h
        cases h
    | ok resolved =>
        rw [hresolved] at h
        obtain rfl := Except.ok.inj h
        exact ⟨by rw [hraw]; rfl, _, rfl, insideAny_of_resolveShellCwd hresolved⟩
  · rename_i hnone
    right
    obtain rfl := Except.ok.inj h
    refine ⟨hnone, ?_⟩
    unfold defaultCwd
    cases policy.defaultRoot <;> rfl

/-- A process that is launched for an allowed request is confined exactly where a list of
executables is configured and, unless a directory is asked for, the default directory lies in an
allowed root. -/
theorem confined_iff {environ : Dict String String} {allowed : Allowed} {launch : Launch}
    (hallowed : validateShell platform policy shellCwd arguments = .ok allowed)
    (hrun : run platform environ allowed.normalizedArguments = some launch) :
    Confined platform policy environ arguments launch ↔
      policy.allowedExecutables ≠ [] ∧
        ((requestedCwd platform shellCwd arguments).isSome ∨
          insideAny platform (defaultCwd policy) policy.allowedRoots = true) := by
  obtain ⟨executable, args, cwd, items, hparse, hlisted, hcwd, hitems, hchecked, hnormal⟩ :=
    validateShell_eq_ok hallowed
  rw [hnormal] at hrun
  obtain ⟨hargv, hdir, henv⟩ := run_normalize hitems hrun
  constructor
  · intro h
    obtain ⟨listed, hmem, -⟩ := h.executable
    refine ⟨List.ne_nil_of_mem hmem, ?_⟩
    rcases cwdOf_eq_ok hcwd with ⟨hrequested, -⟩ | ⟨-, htext⟩
    · exact .inl hrequested
    · obtain ⟨path, hpath, hinside⟩ := h.cwd
      rw [hdir, htext] at hpath
      obtain rfl : defaultCwd policy = path :=
        PurePath.ext (Value.str.inj (Option.some.inj hpath))
      exact .inr hinside
  · rintro ⟨hconfigured, hdefault⟩
    refine ⟨⟨executable, hlisted hconfigured, by rw [hargv]; rfl⟩,
      ⟨executable, args, hparse, hargv⟩, ?_, ?_⟩
    · rcases cwdOf_eq_ok hcwd with ⟨-, path, rfl, hinside⟩ | ⟨hnone, htext⟩
      · exact ⟨path, hdir, hinside⟩
      · refine ⟨defaultCwd policy, by rw [hdir, htext], ?_⟩
        rcases hdefault with hrequested | hinside
        · rw [hnone] at hrequested
          cases hrequested
        · exact hinside
    · intro key hkey
      rcases henv key hkey with hbase | ⟨value, hmem⟩
      · exact .inl hbase
      · exact .inr (namedIn_of_checkEnv hchecked hmem)

/-! ## On one platform -/

/-- The parts of a path of a POSIX system. -/
def posixParts (text : String) : List String :=
  (if text.toList.head? = some '/' then ["/"] else []) ++
    ((text.toList.splitOn '/').map String.ofList).filter fun part => part ≠ "" && part ≠ "."

/-- The longest list that two lists begin with. -/
def commonPrefix : List String → List String → List String
  | part :: parts, other :: others =>
      if part = other then part :: commonPrefix parts others else []
  | _, _ => []

/-- A POSIX system without symbolic links, where the paths are absolute and in normal form. -/
def posix : ShellPlatform where
  path text := if h : text = "" then ⟨".", by decide⟩ else ⟨text, h⟩
  isAbsolute path := path.text.toList.head? = some '/'
  parts path := posixParts path.text
  join root _ := root
  canonical := some
  norm path := path.text
  commonpath left right :=
    match posixParts left, posixParts right with
    | "/" :: parts, "/" :: others => some ("/" ++ "/".intercalate (commonPrefix parts others))
    | _, _ => none
  upper text := String.ofList (text.toList.map Char.toUpper)
  textOf _ := "None"
  isFloat value := match value with
    | .int _ => true
    | _ => false

/-- A policy with one executable and one root. -/
def workPolicy : ShellSecurityPolicy where
  allowedExecutables := ["git"]
  allowedRoots := [⟨"/work", by decide⟩]
  defaultRoot := some ⟨"/work", by decide⟩

/-- A request to run `git status`. -/
def gitRequest : Inputs := [("command", .str "Git status")]

def gitLaunch : Launch where
  argv := ["git", "status"]
  cwd := some (.str "/work")
  env := [("PATH", .str "/bin")]

/-- `git status` runs in the one root. -/
theorem confined_sample :
    ∃ allowed, validateShell posix workPolicy none gitRequest = .ok allowed ∧
      run posix [("PATH", "/bin")] allowed.normalizedArguments = some gitLaunch ∧
      Confined posix workPolicy [("PATH", "/bin")] gitRequest gitLaunch := by
  have hallowed : validateShell posix workPolicy none gitRequest = .ok {
      normalizedArguments := normalize gitRequest "git" ["status"] workPolicy.defaultRoot []
      normalizedTarget := workPolicy.defaultRoot
      scopeRoot := workPolicy.defaultRoot } := rfl
  have hrun : run posix [("PATH", "/bin")]
      (normalize gitRequest "git" ["status"] workPolicy.defaultRoot []) = some gitLaunch := rfl
  exact ⟨_, hallowed, hrun, (confined_iff hallowed hrun).mpr ⟨by decide, .inr (by decide)⟩⟩

/-- Where nothing is configured, any executable runs. -/
theorem unconfigured_escape :
    ¬ ∀ (platform : ShellPlatform) (policy : ShellSecurityPolicy) (shellCwd : Option String)
      (environ : Dict String String) (arguments : Inputs) (allowed : Allowed) (launch : Launch),
      validateShell platform policy shellCwd arguments = .ok allowed →
      run platform environ allowed.normalizedArguments = some launch →
      Confined platform policy environ arguments launch := by
  intro h
  obtain ⟨executable, hmem, -⟩ :=
    (h posix {} none [] [("command", .str "evil.exe --all")] _ _ rfl rfl).executable
  cases hmem

end Shell

end Samaktha
