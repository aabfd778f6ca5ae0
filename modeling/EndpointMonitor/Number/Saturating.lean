/-!
# Saturating words

Times and durations are 64-bit words. Sums and products that leave the range stay at the
largest word, so a later time never becomes an earlier one.
-/

namespace EndpointMonitor

/-- The largest 64-bit word. -/
def maxWord : UInt64 := 0xFFFFFFFFFFFFFFFF

/-- The word for a number, or the largest word for one that is too large. -/
def clampWord (n : Nat) : UInt64 :=
  if h : n < 18446744073709551616 then UInt64.ofNatLT n h else maxWord

theorem toNat_clampWord (n : Nat) : (clampWord n).toNat = min n 18446744073709551615 := by
  unfold clampWord
  split
  · simp [UInt64.toNat_ofNatLT]; omega
  · simp only [maxWord, UInt64.reduceToNat]; omega

/-- The sum, or the largest word. -/
def satAdd (a b : UInt64) : UInt64 :=
  clampWord (a.toNat + b.toNat)

/-- The product, or the largest word. -/
def satMul (a b : UInt64) : UInt64 :=
  clampWord (a.toNat * b.toNat)

/-- The difference, or zero. -/
def satSub (a b : UInt64) : UInt64 :=
  clampWord (a.toNat - b.toNat)

@[simp] theorem toNat_satAdd (a b : UInt64) :
    (satAdd a b).toNat = min (a.toNat + b.toNat) 18446744073709551615 :=
  toNat_clampWord _

@[simp] theorem toNat_satMul (a b : UInt64) :
    (satMul a b).toNat = min (a.toNat * b.toNat) 18446744073709551615 :=
  toNat_clampWord _

@[simp] theorem toNat_satSub (a b : UInt64) :
    (satSub a b).toNat = a.toNat - b.toNat := by
  have h := toNat_clampWord (a.toNat - b.toNat)
  have ha := a.toNat_lt
  simp only [satSub]
  omega

end EndpointMonitor
