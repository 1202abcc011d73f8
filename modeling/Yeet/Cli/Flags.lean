import Yeet.Go.Strings

/-! The flags of the remote commands `cli.CommandHandler.RootCmd` builds, with the two
persistent flags the client's root command adds (`--host`, and the hidden `--service`),
and how cobra runs such a command on the arguments after its name. Cobra and pflag are not
among the sources: their parsing is modelled from the libraries, for the flag kinds these
commands use. It covers long flags (`--name`, `--name=value`), groups of shorthands
(`-fn5`), `--`, cobra's `-h`/`--help`, `FParseErrWhitelist.UnknownFlags` (`run`, `stage`),
`DisableFlagParsing` (`ts`) and the argument count `cron` requires. Left out: the
subcommands of `stage`, which cobra would dispatch to from its first argument that is not a
flag; integer values in another base than ten, or out of range; the quoting `%q` adds to
texts that need escapes. -/
namespace Yeet.Cli

inductive FlagKind where
  | bool
  | int
  | string
  deriving DecidableEq, Repr

structure Flag where
  name : String
  shorthand : Option Char
  kind : FlagKind
  deriving DecidableEq, Repr

/-- The network flags of `run` and `stage`. -/
def netFlags : List Flag :=
  [⟨"net", none, .string⟩, ⟨"ts-ver", none, .string⟩, ⟨"ts-exit", none, .string⟩,
    ⟨"ts-tags", none, .string⟩, ⟨"ts-auth-key", none, .string⟩, ⟨"macvlan-mac", none, .string⟩,
    ⟨"macvlan-vlan", none, .int⟩, ⟨"macvlan-parent", none, .string⟩]

/-- The flags a remote command defines, its persistent ones included. -/
def commandFlags : String → List Flag
  | "version" => [⟨"json", none, .bool⟩]
  | "stage" => netFlags
  | "run" => netFlags ++ [⟨"restart", none, .bool⟩]
  | "edit" => [⟨"env", none, .bool⟩, ⟨"config", none, .bool⟩, ⟨"ts", none, .bool⟩, ⟨"restart", none, .bool⟩]
  | "logs" => [⟨"follow", some 'f', .bool⟩, ⟨"lines", some 'n', .int⟩]
  | "status" => [⟨"format", none, .string⟩]
  | "events" => [⟨"all", none, .bool⟩]
  | "mount" => [⟨"type", some 't', .string⟩, ⟨"opts", some 'o', .string⟩, ⟨"deps", none, .string⟩]
  | _ => []

/-- The persistent flags of the client's root command, and the help flag cobra adds. -/
def rootFlags : List Flag :=
  [⟨"host", none, .string⟩, ⟨"service", none, .string⟩, ⟨"help", some 'h', .bool⟩]

/-- What the parse has kept: the arguments that are not flags, the last `--service`, and
the help flag. -/
structure Parsed where
  positional : List String
  service : Option String
  help : Bool

/-- `strconv.ParseBool`. -/
def parseBool : String → Option Bool
  | "1" | "t" | "T" | "TRUE" | "true" | "True" => some true
  | "0" | "f" | "F" | "FALSE" | "false" | "False" => some false
  | _ => none

/-- A decimal integer as `strconv.ParseInt` reads it: an optional sign, then digits. -/
def decimalInt (value : String) : Bool :=
  match value.toList with
  | '-' :: digits | '+' :: digits => digits ≠ [] ∧ digits.all Char.isDigit
  | digits => digits ≠ [] ∧ digits.all Char.isDigit

/-- The name pflag gives a flag in its errors. -/
def Flag.label (flag : Flag) : String :=
  match flag.shorthand with
  | some c => "-" ++ c.toString ++ ", --" ++ flag.name
  | none => "--" ++ flag.name

def invalidArgument (flag : Flag) (value parser : String) : String :=
  "invalid argument \"" ++ value ++ "\" for \"" ++ flag.label ++ "\" flag: " ++ parser ++
    ": parsing \"" ++ value ++ "\": invalid syntax"

/-- `FlagSet.Set`: the flag's `Value.Set`, which fails on a value of the wrong kind. -/
def setFlag (flag : Flag) (value : String) (p : Parsed) : Except String Parsed :=
  match flag.kind with
  | .bool =>
      match parseBool value with
      | none => .error (invalidArgument flag value "strconv.ParseBool")
      | some b => .ok (if flag.name = "help" then { p with help := b } else p)
  | .int => if decimalInt value then .ok p else .error (invalidArgument flag value "strconv.ParseInt")
  | .string => .ok (if flag.name = "service" then { p with service := some value } else p)

/-- `stripUnknownFlagValue`: the argument after an unknown flag is its value unless it is a
flag itself. -/
def stripUnknownFlagValue : List String → List String
  | first :: rest => if Strings.hasPrefix first "-" then first :: rest else rest
  | [] => []

/-- `FlagSet.parseLongArg` for `--name`, `name` holding what follows the dashes. -/
def parseLongArg (flags : List Flag) (whitelist : Bool) (s : String) (name : List Char)
    (args : List String) (p : Parsed) : Except String (List String × Parsed) :=
  if name.head? = some '-' ∨ name.head? = some '=' then .error ("bad flag syntax: " ++ s) else
  let key := String.mk (name.takeWhile (· ≠ '='))
  let value := match name.dropWhile (· ≠ '=') with
    | _ :: v => some (String.mk v)
    | [] => none
  match flags.find? (·.name = key), value with
  | none, some _ => if whitelist then .ok (args, p) else .error ("unknown flag: --" ++ key)
  | none, none => if whitelist then .ok (stripUnknownFlagValue args, p) else .error ("unknown flag: --" ++ key)
  | some flag, some v => (setFlag flag v p).map (args, ·)
  | some flag, none =>
      if flag.kind = .bool then (setFlag flag "true" p).map (args, ·) else
      match args with
      | v :: rest => (setFlag flag v p).map (rest, ·)
      | [] => .error ("flag needs an argument: " ++ s)

/-- `FlagSet.parseShortArg` over the shorthands of one argument. Each letter starts again
from the arguments that followed the group, as pflag's loop does. -/
def parseShortArg (flags : List Flag) (whitelist : Bool) (args : List String) :
    List Char → Parsed → Except String (List String × Parsed)
  | [], p => .ok (args, p)
  | c :: more, p =>
      if "test.".toList.isPrefixOf (c :: more) then .ok (args, p) else
      match flags.find? (·.shorthand = some c) with
      | none =>
          if !whitelist then .error ("unknown shorthand flag: \x27" ++ c.toString ++ "\x27 in -" ++ String.mk (c :: more))
          else if 2 ≤ more.length ∧ more.head? = some '=' then .ok (args, p)
          else if more = [] then .ok (stripUnknownFlagValue args, p)
          else parseShortArg flags whitelist args more p
      | some flag =>
          if 2 ≤ more.length ∧ more.head? = some '=' then (setFlag flag (String.mk (more.drop 1)) p).map (args, ·)
          else if flag.kind = .bool then
            match setFlag flag "true" p with
            | .error e => .error e
            | .ok p => if more = [] then .ok (args, p) else parseShortArg flags whitelist args more p
          else if more ≠ [] then (setFlag flag (String.mk more) p).map (args, ·)
          else match args with
            | v :: rest => (setFlag flag v p).map (rest, ·)
            | [] => .error ("flag needs an argument: \x27" ++ c.toString ++ "\x27 in -" ++ c.toString)

/-- `FlagSet.parseArgs`, interspersed; each round takes at least one argument, so `fuel`
at least the number of arguments is enough. -/
def parseArgs (flags : List Flag) (whitelist : Bool) : Nat → List String → Parsed → Except String Parsed
  | 0, _, p => .ok p
  | _ + 1, [], p => .ok p
  | fuel + 1, s :: args, p =>
      match s.toList with
      | ['-', '-'] => .ok { p with positional := p.positional ++ args }
      | '-' :: '-' :: name =>
          match parseLongArg flags whitelist s name args p with
          | .error e => .error e
          | .ok (args, p) => parseArgs flags whitelist fuel args p
      | '-' :: c :: more =>
          match parseShortArg flags whitelist args (c :: more) p with
          | .error e => .error e
          | .ok (args, p) => parseArgs flags whitelist fuel args p
      | _ => parseArgs flags whitelist fuel args { p with positional := p.positional ++ [s] }

inductive Execution where
  /-- `RunE`, with the `--service` the arguments gave. -/
  | run (service : Option String)
  /-- The command's help, printed in place of `RunE`. -/
  | help
  deriving DecidableEq, Repr

/-- `Command.execute` of the remote command `cmd` on the arguments after its name: the
parse, the help flag, then the arguments' validation; an error is what `Execute` returns. -/
def execute (cmd : String) (args : List String) : Except String Execution :=
  if cmd = "ts" then .ok (.run none) else
  match parseArgs (commandFlags cmd ++ rootFlags) (cmd = "run" ∨ cmd = "stage") (args.length + 1) args
      ⟨[], none, false⟩ with
  | .error e => .error e
  | .ok p =>
      if p.help then .ok .help
      else if cmd = "cron" ∧ p.positional.length < 2 then
        .error ("requires at least 2 arg(s), only received " ++ toString p.positional.length)
      else .ok (.run p.service)

end Yeet.Cli
