namespace TreeShapes
namespace CommandLine

/-!
# Command-line arguments

The program has two commands, each followed by one argument per token.  Options
are recognised only before the first token or a single `--`; from there on
every argument is a token, whatever it looks like.  None of the options takes a
value.
-/

/-- What the program is asked to do. -/
inductive Request where
  /-- Read a type expression. -/
  | type (strict : Bool) (tokens : List String)
  /-- Read a tree literal. -/
  | tree (tokens : List String)
deriving DecidableEq

inductive Page where
  | program
  | type
  | tree
  | help
deriving DecidableEq

inductive UsageError where
  /-- No command is given. -/
  | missingCommand
  /-- An option that the program does not know, or a command that `--` keeps from being one. -/
  | unexpectedArgument (argument : String)
  /-- The command is not one of the program's. -/
  | unknownCommand (word : String)
  /-- The option `--strict` was given twice. -/
  | repeatedStrict
  /-- An option was given a value. -/
  | attachedValue (option value : String)
deriving DecidableEq

inductive Invocation where
  | run (request : Request)
  | help (page : Page)
  | version
  | misuse (error : UsageError)
deriving DecidableEq

/-! ## Shapes of arguments -/

/-- What an argument can be where options are recognised. -/
inductive Shape where
  /-- Two hyphens alone, which end the options. -/
  | separator
  /-- A name behind two hyphens, and the value that an equals sign attaches to it. -/
  | long (name : String) (value? : Option String)
  /-- Letters behind one hyphen, each of them an option. -/
  | short (letter : Char) (others : List Char)
  /-- Anything else, a lone hyphen included. -/
  | word
deriving DecidableEq

/-- What stands behind the first equals sign, if there is one. -/
def attachedValue? (characters : List Char) : Option String :=
  match characters.dropWhile fun char => char != '=' with
  | [] => none
  | _ :: value => some (String.ofList value)

/-- The shape of an argument, by the hyphens at its start. -/
def Shape.of (argument : String) : Shape :=
  match argument.toList with
  | ['-', '-'] => separator
  | '-' :: '-' :: characters =>
      long (String.ofList (characters.takeWhile fun char => char != '='))
        (attachedValue? characters)
  | '-' :: letter :: others => short letter others
  | _ => word

/-- What a long option asks for, provided that it has no value. -/
def Invocation.unlessValue (invocation : Invocation) (name : String) :
    Option String -> Invocation
  | none => invocation
  | some value => misuse (.attachedValue ("--" ++ name) value)

/-! ## Reading arguments -/

/-- The arguments after the command `tree`.  Letters behind one hyphen are options only if the
command knows every one of them; otherwise they are a token. -/
def readTree : List String -> Invocation
  | [] => .run (.tree [])
  | first :: rest =>
      match Shape.of first with
      | .separator => .run (.tree rest)
      | .long name value? =>
          if name == "help" then Invocation.unlessValue (.help .tree) name value?
          else .run (.tree (first :: rest))
      | .short letter others =>
          if (letter :: others).all fun char => char == 'h' then .help .tree
          else .run (.tree (first :: rest))
      | .word => .run (.tree (first :: rest))

/-- The arguments after the command `type`, with whether `--strict` was among those before.  As
for `tree`, letters behind one hyphen may be a token. -/
def readType (strict : Bool) : List String -> Invocation
  | [] => .run (.type strict [])
  | first :: rest =>
      match Shape.of first with
      | .separator => .run (.type strict rest)
      | .long name value? =>
          if name == "help" then Invocation.unlessValue (.help .type) name value?
          else if name == "strict" then
            (if strict then .misuse .repeatedStrict else readType true rest).unlessValue name value?
          else .run (.type strict (first :: rest))
      | .short letter others =>
          if (letter :: others).all fun char => char == 'h' then .help .type
          else .run (.type strict (first :: rest))
      | .word => .run (.type strict (first :: rest))

/-- The page that the command `help` is asked for, given the page found so far. -/
def readHelp : Page -> List String -> Invocation
  | page, [] => .help page
  | .program, "type" :: rest => readHelp .type rest
  | .program, "tree" :: rest => readHelp .tree rest
  | .program, "help" :: rest => readHelp .help rest
  | _, word :: _ => .misuse (.unknownCommand word)

def readCommand (command : String) (arguments : List String) : Invocation :=
  if command == "type" then readType false arguments
  else if command == "tree" then readTree arguments
  else if command == "help" then readHelp .program arguments
  else .misuse (.unknownCommand command)

/-- The arguments after a `--` where the command should be: what follows cannot be a command. -/
def readSeparated : List String -> Invocation
  | [] => .misuse .missingCommand
  | word :: _ =>
      if ["type", "tree", "help"].contains word then .misuse (.unexpectedArgument word)
      else .misuse (.unknownCommand word)

/-- What the arguments after the program's name ask for.  Before the command, the first of several
letters behind one hyphen decides. -/
def read : List String -> Invocation
  | [] => .misuse .missingCommand
  | first :: rest =>
      match Shape.of first with
      | .separator => readSeparated rest
      | .long name value? =>
          if name == "help" then Invocation.unlessValue (.help .program) name value?
          else if name == "version" then Invocation.version.unlessValue name value?
          else .misuse (.unexpectedArgument ("--" ++ name))
      | .short letter _ =>
          if letter == 'h' then .help .program
          else if letter == 'V' then .version
          else .misuse (.unexpectedArgument (String.ofList ['-', letter]))
      | .word => readCommand first rest

end CommandLine
end TreeShapes
