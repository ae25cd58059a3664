import Retrieval.ArithmeticError
set_option autoImplicit false

/-! # Errors

What can go wrong, by cause. A tokenizer or a text store that an engine works with may fail in its
own ways (`Failure`). The engine reports such a failure as an error of writing or of reading, with
the failure kept as its cause, or passes it on as it is. The wording is in the `message` functions
and nowhere else. -/

namespace Retrieval

/-! ## Values that are not what they should be -/

/-- The kinds of value that may stand where a text or a limit is expected. -/
inductive ValueKind where
  | null
  | boolean
  | integer
  | real
  | string
  | list
  | mapping
  deriving DecidableEq, Repr

/-- The name of a kind of value in messages. -/
def ValueKind.label : ValueKind → String
  | null => "NoneType"
  | boolean => "bool"
  | integer => "int"
  | real => "float"
  | string => "str"
  | list => "list"
  | mapping => "dict"

/-! ## Failures of the parts that an engine is given -/

/-- How a tokenizer or a text store fails. -/
inductive Failure where
  /-- The operating system refused. -/
  | system (message : String)
  /-- A look-up found nothing. -/
  | lookup (message : String)
  /-- A value could not be worked with. -/
  | value (message : String)
  /-- A position lies outside a list. -/
  | outOfRange
  /-- Any other failure while running. -/
  | runtime (message : String)
  /-- A value of the given kind has no lower case, because it is not a text. -/
  | notText (kind : ValueKind)
  deriving DecidableEq, Repr

namespace Failure

/-- The text that reports the failure. -/
def message : Failure → String
  | system text => text
  | lookup text => text
  | value text => text
  | outOfRange => "list index out of range"
  | runtime text => text
  | notText kind => "'" ++ kind.label ++ "' object has no attribute 'lower'"

/-- Whether this is a failure to write that the engine expects of a store. -/
def isWriteFailure : Failure → Bool
  | system _ => true
  | _ => false

/-- Whether this is a failure to read that the engine expects of a store. -/
def isReadFailure : Failure → Bool
  | system _ => true
  | lookup _ => true
  | outOfRange => true
  | _ => false

end Failure

/-! ## Errors of the engine -/

/-- Why a document was not added. -/
inductive WriteError where
  /-- The tokenizer failed on the text. -/
  | untokenized (failure : Failure)
  /-- The store holds more or fewer texts than there are records. -/
  | outOfStep (texts records : Nat)
  /-- The store failed to take the text of the document with this id. -/
  | unstored (id : Nat) (failure : Failure)
  /-- The store took the text under another id than that of the document. -/
  | misnumbered (assigned : Int) (expected : Nat)
  deriving DecidableEq, Repr

/-- Why a query was not answered or a text not returned. -/
inductive ReadError where
  /-- The tokenizer failed on the query. -/
  | untokenized (failure : Failure)
  /-- The text of the document with this id could not be read. -/
  | unread (id : Int) (failure : Option Failure)
  deriving DecidableEq, Repr

/-- Why two vectors have no inner product or no similarity. -/
inductive VectorError where
  /-- The vectors have these different lengths. -/
  | mismatch (left right : Nat)
  | arithmetic (error : ArithmeticError)
  deriving DecidableEq, Repr

/-- Why a call of the engine, or of one of its parts, gave no value. -/
inductive Error where
  /-- The engine was used after it was closed. -/
  | closed
  | write (error : WriteError)
  | read (error : ReadError)
  | mismatch (left right : Nat)
  | arithmetic (error : ArithmeticError)
  /-- There is no vector with this id. -/
  | noVector (id : Int)
  /-- A limit of this kind cannot be compared with a number. -/
  | unorderedLimit (kind : ValueKind)
  /-- A limit that is a double cannot cut a list. -/
  | fractionalLimit
  /-- A failure of a tokenizer or store, passed on. -/
  | passedOn (failure : Failure)
  deriving DecidableEq, Repr

/-- An error of a calculation with vectors, among the errors of the engine. -/
def VectorError.toError : VectorError → Error
  | mismatch left right => .mismatch left right
  | arithmetic error => .arithmetic error

/-! ## Wording -/

def WriteError.message : WriteError → String
  | untokenized failure => "failed to tokenize document: " ++ failure.message
  | outOfStep texts records =>
    "storage holds " ++ toString texts ++ " texts for " ++ toString records ++ " documents"
  | unstored id failure => "failed to store document " ++ toString id ++ ": " ++ failure.message
  | misnumbered assigned expected =>
    "storage assigned id " ++ toString assigned ++ ", expected " ++ toString expected

def ReadError.message : ReadError → String
  | untokenized failure => "failed to tokenize query: " ++ failure.message
  | unread id none => "failed to read document " ++ toString id
  | unread id (some failure) =>
    "failed to read document " ++ toString id ++ ": " ++ failure.message

/-- The text that reports an error. -/
def Error.message : Error → String
  | closed => "search engine is closed"
  | write error => error.message
  | read error => error.message
  | mismatch left right =>
    "vectors must have the same dimension: len(a)=" ++ toString left ++ ", len(b)="
      ++ toString right
  | arithmetic error => error.message
  | noVector id => toString id
  | unorderedLimit kind =>
    "'<=' not supported between instances of '" ++ kind.label ++ "' and 'int'"
  | fractionalLimit =>
    "slice indices must be integers or None or have an __index__ method"
  | passedOn failure => failure.message

/-- The failure that an error of writing or reading reports. -/
def Error.cause : Error → Option Failure
  | write (.untokenized failure) => some failure
  | write (.unstored _ failure) => some failure
  | read (.untokenized failure) => some failure
  | read (.unread _ failure) => failure
  | _ => none

end Retrieval
