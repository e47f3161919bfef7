import CoinKeys.EncryptedKey.Encryption

/-!
# Searching for a passphrase

A list of candidates is dealt to a number of workers like cards, and each worker tries its share in
order. The search ends with the first candidate that unlocks the key, or with the first fault other
than a bad passphrase. There are never more workers than candidates.
-/

namespace CoinKeys.EncryptedKey

/-- A passphrase that unlocks a key, as it was given, and the private key. -/
structure Match where
  /-- The passphrase. -/
  passphrase : String
  /-- The private key. -/
  key : PrivateKey
  deriving DecidableEq

/-- Try a candidate. A bad passphrase ends nothing. -/
def attempt (key : EncryptedKey) (candidate : String) : Option (Except Error Match) :=
  match key.decrypt candidate with
  | .ok unlocked => some (.ok ⟨candidate, unlocked⟩)
  | .error .badPassphrase => none
  | .error fault => some (.error fault)

/-- The share of one of `workers` workers: every candidate whose place leaves the remainder
`worker`. -/
def share {α : Type} (workers worker : Nat) (candidates : List α) : List α :=
  (candidates.zipIdx.filter fun c => c.2 % workers == worker).map Prod.fst

/-- The shares of all workers. -/
def shares {α : Type} (workers : Nat) (candidates : List α) : List (List α) :=
  (List.range workers).map fun worker => share workers worker candidates

/-- Search for the candidate that unlocks a key, with at least one worker. -/
def findPassphrase (key : EncryptedKey) (candidates : List String) (workers : Nat) :
    Except Error (Option Match) :=
  if workers = 0 then .error .noThreads
  else
    let order := (shares (min workers candidates.length) candidates).flatten
    match order.findSome? key.attempt with
    | some (.ok found) => .ok (some found)
    | some (.error fault) => .error fault
    | none => .ok none

end CoinKeys.EncryptedKey
