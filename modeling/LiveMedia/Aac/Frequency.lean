set_option autoImplicit false

/-!
# Sampling frequencies

AAC headers name a sampling frequency by its index in a fixed table. A frequency that is spelled
out gets the index of the nearest entry.

## Main definitions

* `LiveMedia.Aac.samplingFrequency?` — the frequency of an index.
* `LiveMedia.Aac.nearestIndex` — the index nearest to a frequency.
-/

namespace LiveMedia.Aac

/-- The frequencies in Hz, by index. -/
def samplingFrequencies : List Nat :=
  [96000, 88200, 64000, 48000, 44100, 32000, 24000, 22050, 16000, 12000, 11025, 8000, 7350]

/-- The lowest frequency that belongs to each index but the last. -/
def lowerBounds : List Nat :=
  [92017, 75132, 55426, 46009, 37566, 27713, 23004, 18783, 13856, 11502, 9391]

/-- The index that announces a frequency spelled out in 24 bits. -/
def explicitIndex : Nat := 15

/-- The frequency of an index, if the table has it. -/
def samplingFrequency? (index : Nat) : Option Nat :=
  samplingFrequencies[index]?

/-- The first index whose lower bound the frequency reaches. -/
def nearestIndex (frequency : Nat) : Nat :=
  lowerBounds.findIdx (· ≤ frequency)

end LiveMedia.Aac
