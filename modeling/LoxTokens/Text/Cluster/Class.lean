import LoxTokens.Text.Cluster.Conjunct
import LoxTokens.Text.Cluster.Extender
import LoxTokens.Text.Cluster.Pictograph
import LoxTokens.Text.Cluster.SpacingMark

/-!
The classes of characters that decide where a cluster ends.
-/

namespace LoxTokens.Text.Cluster

inductive Class
  | carriageReturn | lineFeed | control
  -- what attaches to the character before it, and what attaches to the one after it
  | extender | joiner | spacingMark | prepended
  | regional | pictograph | consonant
  -- letters of a Korean syllable, and whole syllables without and with a trailing letter
  | leading | vowel | trailing | openSyllable | closedSyllable
  | other
  deriving DecidableEq

namespace Class

def controlTable : List (Nat × Nat) := [
  (0x0, 0x9), (0xb, 0xc), (0xe, 0x1f), (0x7f, 0x9f), (0xad, 0xad), (0x61c, 0x61c),
  (0x180e, 0x180e), (0x200b, 0x200b), (0x200e, 0x200f), (0x2028, 0x202e), (0x2060, 0x206f),
  (0xfeff, 0xfeff), (0xfff0, 0xfffb), (0x13430, 0x1343f), (0x1bca0, 0x1bca3), (0x1d173, 0x1d17a),
  (0xe0000, 0xe001f), (0xe0080, 0xe00ff), (0xe01f0, 0xe0fff)]

def prependedTable : List (Nat × Nat) := [
  (0x600, 0x605), (0x6dd, 0x6dd), (0x70f, 0x70f), (0x890, 0x891), (0x8e2, 0x8e2), (0xd4e, 0xd4e),
  (0x110bd, 0x110bd), (0x110cd, 0x110cd), (0x111c2, 0x111c3), (0x113d1, 0x113d1),
  (0x1193f, 0x1193f), (0x11941, 0x11941), (0x11a84, 0x11a89), (0x11d46, 0x11d46),
  (0x11f02, 0x11f02)]

-- Letters that name a country in pairs.
def regionalTable : List (Nat × Nat) :=
  [(0x1f1e6, 0x1f1ff)]

def leadingTable : List (Nat × Nat) :=
  [(0x1100, 0x115f), (0xa960, 0xa97c)]

def vowelTable : List (Nat × Nat) :=
  [(0x1160, 0x11a7), (0xd7b0, 0xd7c6), (0x16d63, 0x16d63), (0x16d67, 0x16d6a)]

def trailingTable : List (Nat × Nat) :=
  [(0x11a8, 0x11ff), (0xd7cb, 0xd7fb)]

-- Of each 28 syllables in a row the first has no trailing letter.
def ofSyllable (c : Char) : Class :=
  if (c.toNat - 0xac00) % 28 = 0 then openSyllable else closedSyllable

def ofChar (c : Char) : Class :=
  if ' ' ≤ c ∧ c ≤ '~' then other
  else if c = '\r' then carriageReturn
  else if c = '\n' then lineFeed
  else if inRanges controlTable c then control
  else if c = '\u200d' then joiner
  else if isExtender c then extender
  else if isSpacingMark c then spacingMark
  else if inRanges prependedTable c then prepended
  else if inRanges regionalTable c then regional
  else if isPictograph c then pictograph
  else if isConsonant c then consonant
  else if inRanges leadingTable c then leading
  else if inRanges vowelTable c then vowel
  else if inRanges trailingTable c then trailing
  else if '\uac00' ≤ c ∧ c ≤ '\ud7a3' then ofSyllable c
  else other

-- Controls make clusters of their own.
def standsAlone : Class → Bool
  | carriageReturn | lineFeed | control => true
  | _                                   => false

def attaches : Class → Bool
  | extender | joiner | spacingMark => true
  | _                               => false

-- Which letters can follow each other in one Korean syllable.
def continuesSyllable : Class → Class → Bool
  | leading,        leading | leading, vowel        => true
  | leading,        openSyllable                    => true
  | leading,        closedSyllable                  => true
  | openSyllable,   vowel   | openSyllable, trailing => true
  | vowel,          vowel   | vowel,   trailing     => true
  | closedSyllable, trailing                        => true
  | trailing,       trailing                        => true
  | _,              _                               => false

end Class
end LoxTokens.Text.Cluster
