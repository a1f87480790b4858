import Chip8.Fault

/-!
A store of text under text keys. Some keys may be unreadable, and writes to some may be refused.
-/

namespace Chip8

/-- Each key has at most one item. A refusal gives its reason. -/
structure Store where
  items : List (String × String)
  unreadable : String → Bool
  refusal : String → Option String

namespace Store

/-- A store that can be read throughout and refuses writes to the given keys. -/
def refusing (items : List (String × String)) (keys : List String) (reason : String) : Store where
  items := items
  unreadable _ := false
  refusal key := if key ∈ keys then some reason else none

/-- The store of a page. A refusal's reason is a script value, shown with its text in quotes. -/
def ofPage (items : List (String × String)) (unreadable refused : List String)
    (reason : String) : Store where
  items := items
  unreadable key := key ∈ unreadable
  refusal key :=
    if key ∈ refused then some ("JsValue(" ++ Text.quote reason ++ ")") else none

def get? (store : Store) (key : String) : Option String :=
  if store.unreadable key then none else store.items.lookup key

/-- Replaces the item of a key, or adds one at the end. -/
def insert (key value : String) : List (String × String) → List (String × String)
  | [] => [(key, value)]
  | item :: rest => if item.1 = key then (key, value) :: rest else item :: insert key value rest

def set (store : Store) (key value : String) : Except Fault Store :=
  match store.refusal key with
  | some reason => .error (.storage reason)
  | none => .ok { store with items := insert key value store.items }

/-- Writes entries in order up to the first refusal. -/
def setAll (store : Store) : List (String × String) → Store × Option Fault
  | [] => (store, none)
  | (key, value) :: rest =>
    match store.set key value with
    | .ok written => written.setAll rest
    | .error fault => (store, some fault)

end Store

end Chip8
