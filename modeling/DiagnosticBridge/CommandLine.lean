namespace DiagnosticBridge

/-!
# The command line

Options are read from left to right.  An option that takes a value takes what follows `=`, or the
next argument unless that looks like an option.  No option may be given twice, there are no other
arguments, and `--help` and `--version` take effect as soon as they are reached.
-/

/-- An option that takes a value. -/
inductive ValueOption where
  /-- The compiler. -/
  | compiler
  /-- The file for the log. -/
  | logFile
  /-- The process of the editor. -/
  | clientProcess
  deriving DecidableEq, Repr

namespace ValueOption

/-- The names of the options, without dashes. -/
def names : List (String × ValueOption) :=
  [("compiler", .compiler), ("log-file", .logFile), ("clientProcessId", .clientProcess)]

/-- The digits of a number that may have a sign. -/
def digitsOf : List Char → List Char
  | '+' :: digits => digits
  | '-' :: digits => digits
  | digits => digits

/-- Whether a text is the number of a process: a decimal number of 32 bits. -/
def isProcessNumber (text : List Char) : Bool :=
  let digits := digitsOf text
  let value : Nat := digits.foldl (fun n c => n * 10 + (c.toNat - 48)) 0
  !digits.isEmpty && digits.all Char.isDigit &&
    (if text.head? = some '-' then value == 0 else decide (value < UInt32.size))

/-- Whether an option takes a value. -/
def accepts : ValueOption → List Char → Bool
  | compiler, _ => true
  | logFile, value => !value.isEmpty
  | clientProcess, value => isProcessNumber value

end ValueOption

/-- The options that have been given. -/
structure Options where
  /-- Whether standard input and output are asked for; there is nothing else to ask for. -/
  stdio : Bool
  /-- The values of the others. -/
  values : List (ValueOption × String)
  deriving DecidableEq, Repr

namespace Options

/-- No options. -/
def none : Options := ⟨false, []⟩

/-- The value of an option. -/
def get? (o : Options) (option : ValueOption) : Option String := o.values.lookup option

/-- The options after one more; nothing if it has been given before or does not take the value. -/
def give? (o : Options) (option : ValueOption) (value : List Char) : Option Options :=
  if (o.get? option).isNone && option.accepts value then
    some { o with values := o.values ++ [(option, String.ofList value)] }
  else Option.none

end Options

/-- What the command line asks for. -/
inductive Request where
  /-- A session. -/
  | serve (options : Options)
  /-- The help text. -/
  | help
  /-- The version. -/
  | version
  /-- Nothing that can be done. -/
  | refused
  deriving DecidableEq, Repr

namespace Request

/-- Whether an argument cannot be the value of the option before it. -/
def looksLikeOption : List Char → Bool
  | ['-'] => false
  | '-' :: _ => true
  | _ => false

/-- The name and the value in an argument with `=`. -/
def nameAndValue (argument : List Char) : String × Option (List Char) :=
  match argument.dropWhile (· != '=') with
  | [] => (String.ofList argument, none)
  | _ :: value => (String.ofList (argument.takeWhile (· != '=')), some value)

/-- Reads the arguments that are left; `waiting` is the option of which the value comes next. -/
def readFrom (given : Options) : Option ValueOption → List (List Char) → Request
  | some _, [] => refused
  | some option, value :: more =>
    if looksLikeOption value then refused
    else
      match given.give? option value with
      | some given => readFrom given none more
      | none => refused
  | none, [] => serve given
  | none, ('-' :: '-' :: argument) :: more =>
    match nameAndValue argument with
    | ("", none) => if more.isEmpty then serve given else refused
    | ("stdio", none) =>
      if given.stdio then refused else readFrom { given with stdio := true } none more
    | ("help", none) => help
    | ("version", none) => version
    | (name, attached) =>
      match ValueOption.names.lookup name, attached with
      | none, _ => refused
      | some option, none => readFrom given (some option) more
      | some option, some value =>
        match given.give? option value with
        | some given => readFrom given none more
        | none => refused
  | none, ('-' :: 'h' :: _) :: _ => help
  | none, ('-' :: 'V' :: _) :: _ => version
  | none, _ :: _ => refused

/-- What the arguments ask for. -/
def ofArguments (arguments : List String) : Request :=
  readFrom .none none (arguments.map String.toList)

/-- The text that answers `--version`. -/
def versionText : String := "perl6-ls 0.1.0\n"

/-- The text that answers `--help`. -/
def helpText : String := "\n".intercalate
  [ "Language server reporting `perl6 -c` errors as diagnostics",
    "",
    "Usage: perl6-ls [OPTIONS]",
    "",
    "Options:",
    "      --stdio                  Talk LSP over stdin/stdout (the only transport; accepted for clients that pass it)",
    "      --compiler <PATH>        Compiler executable, overriding the config file",
    "      --log-file <FILE>        Write logs here instead of ~/.perl6-ls/logs/perl6-ls.log",
    "      --clientProcessId <PID>  Process id of the editor, as passed by some clients",
    "  -h, --help                   Print help",
    "  -V, --version                Print version",
    "" ]

/-- The exit code for a command line that is refused. -/
def refusedCode : Nat := 2

end Request

end DiagnosticBridge
