import TaggedCatalog.Text.CodePoint

/-! # Expressions and statements

A catalog needs the classes of a module, their decorators and their
documentation. Of all other code only so much is kept as decides whether it is
well formed, what can be assigned to and where it starts, and which statements
stand inside which. -/

namespace TaggedCatalog.Source

/-- An expression and the line that it starts on. -/
inductive Expr where
  | name (line : Nat) (word : String)
  | member (line : Nat) (base : Expr) (word : String)
  | subscript (line : Nat)
  /-- A call with its positional arguments and its named ones, a missing name
  standing for an unpacked mapping. -/
  | call (line : Nat) (function : Expr) (positional : List Expr)
      (named : List (Option String × Expr))
  /-- A plain text. -/
  | text (line : Nat) (value : CodeText)
  | tuple (line : Nat) (items : List Expr)
  | list (line : Nat) (items : List Expr)
  | starred (line : Nat) (value : Expr)
  | other (line : Nat)
deriving Repr

namespace Expr

def line : Expr → Nat
  | name line _ => line
  | member line _ _ => line
  | subscript line => line
  | call line _ _ _ => line
  | text line _ => line
  | tuple line _ => line
  | list line _ => line
  | starred line _ => line
  | other line => line

def isStarred : Expr → Bool
  | starred _ _ => true
  | _ => false

/-- Whether an expression is one place that a value can be put. -/
def isPlace : Expr → Bool
  | name _ _ => true
  | member _ _ _ => true
  | subscript _ => true
  | _ => false

/-- Whether an expression can be deleted: a place, or a sequence of such. -/
def isDeletable : Expr → Bool
  | name _ _ => true
  | member _ _ _ => true
  | subscript _ => true
  | tuple _ items => items.attach.all fun ⟨item, _⟩ => item.isDeletable
  | list _ items => items.attach.all fun ⟨item, _⟩ => item.isDeletable
  | _ => false

/-- Whether an expression can be assigned to. Every part of a sequence may be
starred, once. -/
def isTarget : Expr → Bool
  | name _ _ => true
  | member _ _ _ => true
  | subscript _ => true
  | tuple _ items => items.attach.all fun ⟨item, _⟩ => item.isTarget
  | list _ items => items.attach.all fun ⟨item, _⟩ => item.isTarget
  | starred _ value => !value.isStarred && value.isTarget
  | _ => false

end Expr

/-- A statement. -/
inductive Stmt where
  | classDef (name : String) (decorators : List Expr) (body : List Stmt)
  | expression (value : Expr)
  /-- A statement that is no class but has blocks, with the statements in them. -/
  | compound (body : List Stmt)
  | other
deriving Repr

end TaggedCatalog.Source
