import EndpointMonitor.Character.Composition

/-!
# Controls that join letters

Two controls say that the letters on their sides are joined, or that they are not. They may stand
after a sign that kills a vowel, and the one that keeps letters apart also between letters that
would join over it. The table follows version 17.0 of the Unicode standard; characters that no
name holds are listed with their neighbours.
-/

namespace EndpointMonitor.Joining

/-- The runs of characters that join in the same way: `D` on both sides, `L` with the next one, `R`
with the one before, `U` not at all; `T` is seen through. -/
def table : List String := [
  "300U71T112U8T106U2dT1U1T1U2T1U2T1U9T40UbT5U1D1U4R1D1R1D1R5D4RdD1U7D1R2D15TeU2D1T3R5UfD12R26D1R",
  "2D9R1D1R1D1R2D2R1U1R8T1U6T2U2T1U4T2RaU3D2U1D10U1R1T3D5R4D1R9D1R1D1R1D1R2D1R1dT1RbD3RfD2R4D1R1D",
  "2R3D2R6D26UbT19U21D9T9U1T18U4T1U9T1U3T1U7T10U1R5D2R1D1RaD1R1D3R5T2U1D1U4D1U1R1D1aR3U1D2U5D1R8D",
  "9TaD3R1U1R2D2R6D1RfD1U39T37U1T1U1T4U8T4U1T3UfT2U2T1dU1T3aU1T4U6T6U1T14U4T18U5T39U2T3U1bT14U2T",
  "3U1TbU2T39U1T4U8T4U3T12U4T14U8T3aU1T2U1T1U6T6UaTbU4T1cU1T3dU1TcU3T30U1T3U1T37U1T1U3T5U12TaU4T",
  "1bU1T3aU1T2U1T6U1T5U9TdU4T1aU2T39U2T4U5T7U1T14U4T1bU1T48U5T3U6T59U1T2UbT8U8T62U1T2U9TbU8T48U2T",
  "1bU1T1U1T1U1T37UeT1U5T1U2T5U31T8U1T66U4T1U6T1U2T2U2T19U2T4U3T10U4TdU1T2U2T6U1TfU1T2bfU3T3b2U3T",
  "1dU2T1eUeT12UeT37U7T8U1T2UbT9U3T27U1D18U60D5U2T22D1T6D70U3T4U2T9U1T6U7Td7U2T2U3T38U1T1U9T1U1T",
  "2U8T6UdT30U54T30U1T1U5T1U1T5U1T28U9TcU2T20U4T2U2T1U3T38U1T1U2T3U1T1U3T3aU8T2U5T95U3T1UdT1U7T4U",
  "1T6U1T3U2Tc6U41T2cfU34TbebU4T8cU1T60U20T22aU4T6bU4T75d2U4T1UaT20U2T50U2T110U1T3U1T4U1T19U2T5U",
  "4T10U32D1L51UaT12U12TdU1T26U8T19UbT2eU3T30U1T2U4T2U2T27U1T43U6T2U2T2UbT3U1T8U1T2fU1T33U1T1U3T",
  "2U2T5U2T1U1T2aU2T8UbTe4U1T2U1T4U3T4f2eU94T26eU25T3b8U83T60U1T95UaT681UfT28U8T80U5D1R1U1R1U2R2U",
  "1L5R4D1L5D1R3D1R2U1R6T4D1R90U1D1R1D3R3D1R2D1R1D2R1D8R10U4R2D151U1L21D1R1DcT39U5T13dU2T15U1R2D",
  "1UaD2aU6T30U3D1R11D1UbT3D1R1bU4D2RcD4T2aU1D1U2D3R1U1D2R2D1R2D1U1D2R1D4U1R1D15L21U1T36UfT29U1T",
  "2U2TaU3T31U4T2U2T7UeT30U3T24U5T1U9T3dU1TcU2T34U9TaU4T2U1T5fU3T2U1T1U2T6U1T2U3fT5fU1T3UdT10U2T",
  "39U2T3U1T25U1aT3bU7TcU1T1U1T1U1TeU1fT38U8T2U3T1U1T17U1T54U6T1U1T4U2T1U2TeeU6T4U2T1U2T1bU24T33U",
  "8T2U1T1U2T6aU1T1U1T2U6T1U1T65U1T1U1T2U4T1U9TffU9T1U2T100U2T1U1T4U1T90U8T4U1T20UaT28U6T2U4T8U9T",
  "1U6T2U3T2eUdT1U2Tc6U1T1U3T1U1Tc9UeT1U1T52U17T1U7T1U2T1U4bT31U15T1U9T40U3T2U1T1U1T15bU2TbU2T34U",
  "8T2U1T1U1T17U56T1490U1T6U19T2cbeUcT3U3T9c0U5T3bU7T418U1T3fU4T51UcT4cadU2T1261U50T217U3T11U8T2U",
  "7T1eU4T94U3T7bbU37T4U32T8U1TeU1T16U465T100U100T30U7T177U12T2cU4T1fcU4TfeU2Tf3U1T2U1T7U2T5U9T",
  "1d2U52T22DcTf16b0U"]

/-- The runs of one way to join, in order. -/
def runs : List Run :=
  Run.ofTable 1 table

/-- The characters that join with the next one. -/
def forwards : CodeSet :=
  Run.select ["D", "L"].contains runs

/-- The characters that join with the one before them. -/
def backwards : CodeSet :=
  Run.select ["D", "R"].contains runs

/-- The characters that others join through. -/
def transparent : CodeSet :=
  Run.select (· = "T") runs

/-- Whether the first of some characters that is not seen through belongs to a set. -/
def reaches (set : CodeSet) (cs : List Char) : Bool :=
  (cs.find? fun c => set.contains c.toNat || !transparent.contains c.toNat).any fun c =>
    set.contains c.toNat

/-- Whether a character is a sign that kills the vowel of the letter before it. -/
def isVowelKiller (c : Char) : Bool :=
  Composition.classOf c = 9

/-- The control that joins letters. -/
def joiner : Char :=
  '\u200D'

/-- The control that keeps letters apart. -/
def nonJoiner : Char :=
  '\u200C'

/-- Whether each control may stand where it does. The characters before are in reverse order. -/
def fits (before : List Char) : List Char → Bool
  | [] => true
  | c :: rest =>
    let between := reaches forwards before && reaches backwards rest
    ((c ≠ joiner && c ≠ nonJoiner) || before.head?.any isVowelKiller ||
      (c = nonJoiner && between)) &&
      fits (c :: before) rest

end EndpointMonitor.Joining
