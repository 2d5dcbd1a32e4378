import Toasts.Toast

/-!
The list of toasts and those who watch it. Every change makes a whole new list, a snapshot, with a
version number of its own; a change that would leave the list as it is makes none.
-/

namespace Toasts

structure Listener where
  id : Nat
  hook : Hook
  deriving DecidableEq

/-- The toasts in the order of their creation, and the listeners in the order of subscription. -/
structure Store where
  toasts : List Toast := []
  /-- How many snapshots there have been. -/
  version : Nat := 0
  listeners : List Listener := []
  /-- How many listeners there have ever been. -/
  subscriptions : Nat := 0

namespace Store

def swap (store : Store) (toasts : List Toast) : Store :=
  { store with toasts, version := store.version + 1 }

def get? (store : Store) (id : ToastId) : Option Toast :=
  store.toasts.find? (·.id = id)

/-- Append a toast; a record with the same identity goes. -/
def add (store : Store) (toast : Toast) : Store :=
  store.swap (store.toasts.filter (·.id ≠ toast.id) ++ [toast])

def replaceFirst (id : ToastId) (revised : Toast) : List Toast → List Toast
  | [] => []
  | toast :: rest => if toast.id = id then revised :: rest else toast :: replaceFirst id revised rest

/-- Replace the record with this identity by what `change` makes of it, if it makes anything. -/
def update? (store : Store) (id : ToastId) (change : Toast → Option Toast) : Option Store :=
  ((store.get? id).bind change).map fun revised => store.swap (replaceFirst id revised store.toasts)

def removeWhere? (store : Store) (doomed : Toast → Bool) : Option Store :=
  if store.toasts.any doomed then some (store.swap (store.toasts.filter (!doomed ·))) else none

def remove? (store : Store) (id : ToastId) : Option Store :=
  store.removeWhere? fun toast => decide (toast.id = id)

def removeEdition? (store : Store) (id : ToastId) (edition : Nat) : Option Store :=
  store.removeWhere? fun toast => decide (toast.id = id) && toast.edition == edition

def clears (position : Option Position) (toast : Toast) : Bool :=
  match position with
  | none => true
  | some position => decide (toast.position = position)

def cleared (store : Store) (position : Option Position) : List ToastId :=
  (store.toasts.filter (clears position)).map (·.id)

/-- Remove everything, or what sits at one position, if there is anything. -/
def clear? (store : Store) (position : Option Position) : Option Store :=
  store.removeWhere? (clears position)

/-- Add a listener; its number is its place among all subscriptions. -/
def subscribe (store : Store) (hook : Hook) : Store :=
  let number := store.subscriptions + 1
  { store with listeners := store.listeners ++ [⟨number, hook⟩], subscriptions := number }

def unsubscribe (store : Store) (number : Nat) : Store :=
  { store with listeners := store.listeners.filter (·.id ≠ number) }

end Store

end Toasts
