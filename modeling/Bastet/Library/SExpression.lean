import Mathlib.Data.List.Basic

/-! Texts of nested lists with atoms and quoted strings. Symbols are scanned one by one; what a text is made of can be
read piece by piece, and the tokens of expressions are read back as these expressions. -/

set_option autoImplicit false

namespace SExpression

inductive Token where
  | opens
  | closes
  | atom (name : List Char)
  | text (value : List Char)
  | unfinished
  deriving DecidableEq, Repr

/-- Where the scanner is: between tokens, in an atom, in a string, or after a backslash in a string. -/
inductive Mode where
  | between
  | inAtom (name : List Char)
  | inText (value : List Char)
  | escaping (value : List Char)
  deriving DecidableEq, Repr

/-- A symbol that begins something new. -/
def start (symbol : Char) : List Token × Mode :=
  if symbol = '(' then ([.opens], .between)
  else if symbol = ')' then ([.closes], .between)
  else if symbol = '"' then ([], .inText [])
  else if symbol.isWhitespace then ([], .between)
  else ([], .inAtom [symbol])

/-- A symbol that ends an atom. -/
def isDelimiter (symbol : Char) : Bool :=
  symbol ∈ ['(', ')', '"'] || symbol.isWhitespace

def step : Mode → Char → List Token × Mode
  | .between, symbol => start symbol
  | .inAtom name, symbol =>
    if isDelimiter symbol then (.atom name :: (start symbol).1, (start symbol).2)
    else ([], .inAtom (name ++ [symbol]))
  | .inText value, symbol =>
    if symbol = '"' then ([.text value], .between)
    else if symbol = '\\' then ([], .escaping value)
    else ([], .inText (value ++ [symbol]))
  | .escaping value, symbol => ([], .inText (value ++ [symbol]))

def finish : Mode → List Token
  | .between => []
  | .inAtom name => [.atom name]
  | .inText _ | .escaping _ => [.unfinished]

/-- The tokens a piece of text completes, and where it leaves the scanner. -/
def scan (mode : Mode) : List Char → List Token × Mode
  | [] => ([], mode)
  | symbol :: rest => ((step mode symbol).1 ++ (scan (step mode symbol).2 rest).1, (scan (step mode symbol).2 rest).2)

def tokens (mode : Mode) (text : List Char) : List Token :=
  (scan mode text).1 ++ finish (scan mode text).2

theorem scan_append (mode : Mode) (first rest : List Char) :
    scan mode (first ++ rest) =
      ((scan mode first).1 ++ (scan (scan mode first).2 rest).1, (scan (scan mode first).2 rest).2) := by
  induction first generalizing mode with
  | nil => rfl
  | cons symbol others ih =>
    rw [List.cons_append, scan, scan, ih, List.append_assoc]

/-- A string holds whatever has neither quotes nor backslashes. -/
theorem scan_text {value : List Char} (plain : ∀ symbol ∈ value, symbol ≠ '"' ∧ symbol ≠ '\\') (before : List Char) :
    scan (.inText before) value = ([], .inText (before ++ value)) := by
  induction value generalizing before with
  | nil => rw [scan, List.append_nil]
  | cons symbol rest ih =>
    obtain ⟨noQuote, noBackslash⟩ := plain symbol List.mem_cons_self
    have taken : step (.inText before) symbol = ([], .inText (before ++ [symbol])) := by
      rw [step, if_neg noQuote, if_neg noBackslash]
    rw [scan, taken, ih fun other member => plain other (List.mem_cons_of_mem _ member), List.append_assoc]
    rfl

inductive Expr where
  | atom (name : List Char)
  | text (value : List Char)
  | list (items : List Expr)

mutual

def Expr.tokens : Expr → List Token
  | .atom name => [.atom name]
  | .text value => [.text value]
  | .list items => .opens :: (tokensAll items ++ [.closes])

def tokensAll : List Expr → List Token
  | [] => []
  | item :: rest => item.tokens ++ tokensAll rest

end

/-- The expressions of a list of tokens, inside the lists that are open. -/
def build (outer : List (List Expr)) (done : List Expr) : List Token → Option (List Expr)
  | [] => if outer.isEmpty then some done else none
  | .opens :: rest => build (done :: outer) [] rest
  | .closes :: rest =>
    match outer with
    | [] => none
    | before :: others => build others (before ++ [.list done]) rest
  | .atom name :: rest => build outer (done ++ [.atom name]) rest
  | .text value :: rest => build outer (done ++ [.text value]) rest
  | .unfinished :: _ => none

mutual

theorem build_tokens (item : Expr) (outer : List (List Expr)) (done : List Expr) (rest : List Token) :
    build outer done (item.tokens ++ rest) = build outer (done ++ [item]) rest := by
  cases item with
  | atom name => rfl
  | text value => rfl
  | list items =>
    rw [Expr.tokens, List.cons_append, List.append_assoc, build, build_tokensAll items, List.nil_append]
    rfl

theorem build_tokensAll (items : List Expr) (outer : List (List Expr)) (done : List Expr) (rest : List Token) :
    build outer done (tokensAll items ++ rest) = build outer (done ++ items) rest := by
  cases items with
  | nil => rw [tokensAll, List.nil_append, List.append_nil]
  | cons item others =>
    rw [tokensAll, List.append_assoc, build_tokens item, build_tokensAll others, List.append_assoc]
    rfl

end

def parse (text : List Char) : Option (List Expr) :=
  build [] [] (tokens .between text)

/-- A piece of text that holds these expressions and leaves nothing open. -/
def Reads (text : List Char) (items : List Expr) : Prop :=
  scan .between text = (tokensAll items, .between)

theorem Reads.nil : Reads [] [] :=
  rfl

theorem tokensAll_append (first rest : List Expr) : tokensAll (first ++ rest) = tokensAll first ++ tokensAll rest := by
  induction first with
  | nil => rfl
  | cons item others ih => rw [List.cons_append, tokensAll, tokensAll, ih, List.append_assoc]

/-- Texts are read piece by piece. -/
theorem Reads.append {first rest : List Char} {items others : List Expr} (one : Reads first items)
    (other : Reads rest others) : Reads (first ++ rest) (items ++ others) := by
  rw [Reads, scan_append, one, other, tokensAll_append]

theorem Reads.parse {text : List Char} {items : List Expr} (reads : Reads text items) : parse text = some items := by
  have scanned : tokens .between text = tokensAll items := by
    rw [tokens, reads]
    exact List.append_nil _
  have built := build_tokensAll items [] [] []
  rw [List.append_nil] at built
  rw [SExpression.parse, scanned, built]
  rfl

end SExpression
