/-!
# Command lines

A command line is a command and its options. An option is given by its long name behind two hyphens
or by its letter behind one; its value follows as the next argument or is attached. An option that
takes several values takes all arguments up to the next that begins with a hyphen, and may be given
again to add more. A line that does not name a complete command is told apart by its first mistake.
-/

namespace Fixture.CommandLine

/-- Why a command line runs no command. -/
inductive Usage where
  | help
  | helpWithoutCommand
  | missingOption
  | unknownCommand
  | unknownArgument
  | missingValue
  | unusedValue
  | badValue
  | repeatedOption
  deriving DecidableEq

namespace Usage

def exitCode : Usage → Nat
  | help => 0
  | _ => 2

end Usage

/-- What the values of an option are. -/
inductive ValueKind where
  | text
  | path
  /-- A whole number that a 64-bit word holds. -/
  | number

/-- A whole number in decimal, with a plus sign if one likes. -/
def number? (text : String) : Option Nat :=
  let digits := match text.toList with
    | '+' :: rest => rest
    | all => all
  if digits.isEmpty || !digits.all Char.isDigit then none
  else
    let value := digits.foldl (fun sum digit => sum * 10 + (digit.toNat - 48)) 0
    if value < Nat.pow 2 64 then some value else none

namespace ValueKind

/-- What is wrong with a value. -/
def mistake? : ValueKind → String → Option Usage
  | text, _ => none
  | path, value => if value.isEmpty then some .missingValue else none
  | number, value => if (number? value).isNone then some .badValue else none

end ValueKind

structure Opt where
  name : String
  letter : Option Char := none
  kind : ValueKind := .text
  /-- Takes several values and may be given again. -/
  many : Bool := false
  required : Bool := false

/-- The values that were given, by the names of the options. -/
abbrev Given := List (String × List String)

namespace Given

def values (self : Given) (name : String) : List String :=
  (self.filter (·.1 == name)).flatMap (·.2)

def value? (self : Given) (name : String) : Option String := (self.values name).head?

end Given

/-- Options read so far; the last one may still be waiting for values. -/
structure Reading where
  given : Given := []
  pending : Option (Opt × List String) := none
  /-- The next plain argument is a value of the last option. -/
  takesMore : Bool := false

namespace Reading

/-- An option with all its values. -/
def settled (given : Given) (option : Opt) (values : List String) : Except Usage Given :=
  if values.isEmpty then .error .missingValue
  else if !option.many && given.any (·.1 == option.name) then .error .repeatedOption
  else
    match values.findSome? option.kind.mistake? with
    | some mistake => .error mistake
    | none => .ok (given ++ [(option.name, values)])

/-- The options given, the last one included. -/
def settle (self : Reading) : Except Usage Given :=
  match self.pending with
  | none => .ok self.given
  | some (option, values) => settled self.given option values

/-- An option begins, with a value if one is attached. -/
def beginOption (self : Reading) (option : Opt) (attached : Option String) :
    Except Usage Reading := do
  let given ← self.settle
  match attached with
  | some value => return { given := ← settled given option [value] }
  | none => return { given, pending := some (option, []), takesMore := true }

/-- The mistake of asking for help, once what stands before is in order. -/
def helped (self : Reading) : Usage :=
  match self.settle with
  | .ok _ => .help
  | .error mistake => mistake

/-- A name and what is attached to it behind an equals sign. -/
def attachment (text : List Char) : String × Option String :=
  (String.ofList (text.takeWhile (· != '=')),
    match text.dropWhile (· != '=') with
    | [] => none
    | _ :: value => some (String.ofList value))

/-- One argument more. -/
def argument (options : List Opt) (self : Reading) (arg : String) : Except Usage Reading :=
  match arg.toList with
  | '-' :: '-' :: long =>
    match attachment long with
    | ("help", none) => .error self.helped
    | ("help", some _) => .error .unusedValue
    | (name, attached) =>
      match options.find? (·.name == name) with
      | some option => self.beginOption option attached
      | none => .error .unknownArgument
  | '-' :: letter :: behind =>
    if letter == 'h' then .error self.helped
    else
      match options.find? (·.letter == some letter) with
      | none => .error .unknownArgument
      | some option =>
        self.beginOption option <|
          match behind with
          | [] => none
          | '=' :: value => some (String.ofList value)
          | value => some (String.ofList value)
  | _ =>
    match self.pending, self.takesMore with
    | some (option, values), true =>
      .ok { self with pending := some (option, values ++ [arg]), takesMore := option.many }
    | _, _ => .error .unknownArgument

/-- All arguments; nothing may follow two hyphens alone. -/
def arguments (options : List Opt) (self : Reading) : List String → Except Usage Reading
  | [] => .ok self
  | "--" :: [] => .ok self
  | "--" :: _ => .error .unknownArgument
  | arg :: rest => do arguments options (← self.argument options arg) rest

end Reading

/-- The values of the options of a command. -/
def readOptions (options : List Opt) (args : List String) : Except Usage Given := do
  let given ← (← Reading.arguments options {} args).settle
  if (options.filter (·.required)).all fun option => given.any (·.1 == option.name) then
    return given
  else throw .missingOption

/-- What a command line asks for. -/
inductive Invocation where
  | generate (catalogs : List String) (root : String) (seed : Option Nat) (scope : Option String)
      (maxDepth : Option Nat) (ignored : List String) (out : Option String)
  | types (catalogs : List String) (described : Option String)

namespace Invocation

def catalogOption : Opt :=
  { name := "catalog", letter := some 'c', many := true, required := true }

def generateOptions : List Opt := [
  catalogOption,
  { name := "root", letter := some 'r', required := true },
  { name := "seed", kind := .number },
  { name := "scope" },
  { name := "max-depth", kind := .number },
  { name := "ignore", many := true },
  { name := "out", letter := some 'o', kind := .path }]

def typesOptions : List Opt := [catalogOption, { name := "describe" }]

def ofGenerate (given : Given) : Invocation :=
  generate (given.values "catalog") ((given.value? "root").getD "")
    ((given.value? "seed").bind number?) (given.value? "scope")
    ((given.value? "max-depth").bind number?) (given.values "ignore") (given.value? "out")

def ofTypes (given : Given) : Invocation :=
  types (given.values "catalog") (given.value? "describe")

def commands : List String := ["generate", "types", "help"]

/-- Help on a command: the names behind it must be those of commands inside commands, and no command
has any inside. -/
def helpOn : List String → Usage
  | [] => .help
  | [name] => if commands.contains name then .help else .unknownCommand
  | _ => .unknownCommand

/-- The command that a command line without the program's name asks for. -/
def ofArguments : List String → Except Usage Invocation
  | [] => .error .helpWithoutCommand
  | "generate" :: args => ofGenerate <$> readOptions generateOptions args
  | "types" :: args => ofTypes <$> readOptions typesOptions args
  | "help" :: names => .error (helpOn names)
  | "--" :: [] => .error .helpWithoutCommand
  | "--" :: name :: _ =>
    .error (if commands.contains name then .unknownArgument else .unknownCommand)
  | arg :: _ =>
    match arg.toList with
    | '-' :: '-' :: _ =>
      .error (if arg == "--help" then .help
        else if arg.startsWith "--help=" then .unusedValue
        else .unknownArgument)
    | '-' :: letter :: _ => .error (if letter == 'h' then .help else .unknownArgument)
    | _ => .error .unknownCommand

end Invocation

end Fixture.CommandLine
