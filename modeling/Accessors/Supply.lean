import Accessors.Digest.Sha256

/-!
# Identifiers and the clock

A `Supply` is all that a run takes from outside while it works: an endless list of identifiers, of
which it has used some, and the time.
-/

namespace Accessors

abbrev Id := String

structure Supply where
  source : Nat → Id
  used : Nat := 0
  /-- The time of the run, as a date with a time and an offset. -/
  now : String

namespace Supply

def fresh : StateM Supply Id := fun s => (s.source s.used, { s with used := s.used + 1 })

def time : StateM Supply String := fun s => (s.now, s)

/-- Thirty-two hexadecimal digits as a random identifier of version 4: the version digit is fixed,
and the variant digit is one of four. -/
def identifier (digits : List Char) : Id :=
  let variant := (['8', '9', 'a', 'b'])[(digits.getD 16 '0').toNat % 4]?.getD '8'
  .ofList (digits.take 8 ++ '-' :: (digits.drop 8).take 4 ++
    '-' :: '4' :: (digits.drop 13).take 3 ++ '-' :: variant :: (digits.drop 17).take 3 ++
    '-' :: (digits.drop 20).take 12)

/-- Identifiers drawn from a seed: the digests of the seed and a number. -/
def seeded (seed now : String) : Supply where
  source n := identifier (Digest.fingerprint (seed ++ ":" ++ Nat.repr n)).toList
  now := now

end Supply

end Accessors
