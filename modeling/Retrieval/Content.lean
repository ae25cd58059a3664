import Retrieval.Tokenizer
set_option autoImplicit false

/-! # Content that may not be text

What is handed to an engine as a document need not be a text. Content of another kind is carried
along unchanged. A tokenizer that has to look at the characters fails on it with the kind of the
value; a table of texts has no entry for it. -/

namespace Retrieval

/-- A text, or a value of another kind. -/
inductive Content (ω : Type) where
  | text (text : String)
  | foreign (kind : ValueKind) (value : ω)

/-- A tokenizer of texts, extended to content: it fails on what is not text. -/
def Tokenizer.onContent {ω : Type} (tokenizer : Tokenizer String) : Tokenizer (Content ω)
  | .text s => tokenizer s
  | .foreign kind _ => .error (.notText kind)

/-- A table of texts, as a tokenizer of content. -/
def Tokenizer.tabulatedContent {ω : Type} (table : OrderedMap String Tokens) :
    Tokenizer (Content ω)
  | .text s => tabulated table s
  | .foreign _ _ => .error noEntry

/-- The tokens of a content in order; content that is not text has none. -/
def Content.split {ω : Type} (options : TokenizerOptions) : Content ω → Except Failure (List String)
  | .text s => .ok (options.split s)
  | .foreign kind _ => .error (.notText kind)

end Retrieval
