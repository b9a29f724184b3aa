import MailRound.Account.Basic

namespace MailRound

/-- The enabled accounts and the place of the one that was selected last, if one is. -/
structure Cursor where
  accounts : List Account
  index : Option Nat
  deriving Repr, Inhabited

namespace Cursor

def new (accounts : List Account) : Cursor := ⟨accounts.filter (·.enabled), none⟩

/-- Goes to the next account; behind the last one no account is selected. -/
def advance (c : Cursor) : Bool × Cursor :=
  let next := match c.index with
    | none => 0
    | some i => i + 1
  if next < c.accounts.length then (true, { c with index := some next })
  else (false, { c with index := none })

def current? (c : Cursor) : Option Account := c.index.bind (c.accounts[·]?)

def reset (_ : Cursor) (accounts : List Account) : Cursor := new accounts

def size (c : Cursor) : Nat := c.accounts.length

def isEmpty (c : Cursor) : Bool := c.accounts.isEmpty

end Cursor

end MailRound
