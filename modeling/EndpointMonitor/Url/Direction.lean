import EndpointMonitor.Character.Runs

/-!
# Names that run in two directions

A name with a letter that is written from right to left must not be misread: each of its labels
starts with a letter, runs in the direction of that letter, and ends with a letter or a digit of
it. Marks at the end count for nothing. The table follows version 17.0 of the Unicode standard;
characters that no name holds are listed with their neighbours.
-/

namespace EndpointMonitor

/-- What a character does to the direction of a text. -/
inductive Direction where
  | leftToRight
  | rightToLeft
  | arabicNumber
  | europeanNumber
  | mark
  | neutral
  deriving DecidableEq

namespace Direction

/-- The runs of one direction, under the letters of `ofLabel`. -/
def table : List String := [
  "30NaE7N1aL6N1aL64N18L1N1c1L2N7LeN2L1cN1L11N71M4L2N7fL2N8bL8MffL7N2dM1R1M1R2M1R2M1R9M36R2N1R2N",
  "1R1N1R2NbM30R15MaA1N2A3R1M65R8M1N6M2R2M1N4M2RaE17R1M1eR1dM59RbM3aR9M2R4N3R1M18R4M1R9M1R3M1R7M",
  "29R5M39R9M2aR39M37L1M1L1M4L8M4L1M3LfM2L2M1dL1M3aL1M4L6M6L1M14L4McL2N7L1N2L5M39L2M3L1bM14L2M3L",
  "1MbL2M39L1M4L8M4L3M12L4MbL8N1L8M3aL1M2L1M1L6M6LaMbL4M1cL1M3dL1McL3M23LdN1M3L1M37L1M1L3M5L12MaL",
  "4M12L7N2L1M3aL1MfL9MdL4M1aL2M39L2M4L5M7L1M14L4M1bL1M48L5M3L6M59L1M2LbM1N7L8M62L1M2L9MbL8M48L2M",
  "1bL1M1L1M1L1M4N33LeM1L5M1L2M5L31M8L1M66L4M1L6M1L2M2L2M19L2M4L3M10L4MdL1M2L2M6L1MfL1M2bfL3M30L",
  "10N60L1N29aL5N72L3M1dL2M1eLeM12LeM37L7M8L1M2LbM7L1N1L3M10L20N75L2M22L1M76L3M4L2M9L1M6L7M6N98L",
  "22N17L2M2L3M38L1M1L9M1L1M2L8M6LdM30L54M30L1M1L5M1L1M5L1M28L9McL2M20L4M2L2M1L3M38L1M1L2M3L1M1L",
  "3M3aL8M2L5M95L3M1LdM1L7M4L1M6L1M3L2Mc6L41M20bLc4N34M4aN3cL1acN45L1aN1L316N1L153N100L330Nb5L7N",
  "3L4M6L7N7fL1M60L20M205N3L19N9L4M2L1N6L4N2L4N58L4M3L1N5aL1Nc4L30N1bd0L40N5690L40N13dL3N5fL4M1N",
  "aM3N1dL2M50L2MeL23N65L1N79L1M3L1M4L1M19L2M1L4N4M8L8N34LcN44LaM12L12MdL1M26L8M19LbM2eL3M30L1M2L",
  "4M2L2M27L1M43L6M2L2M2LbM3L1M8L1M2fL1M33L1M1L3M2L2M5L2M1L1M2aL2M8LbM69L56N25L1M2L1M4L3M4f2eL94M",
  "11R25dN25M2eN18dR101L1N3eL4dN3L40N2dL83M60L1M1fE76LaM480L11fR1Ne1RfM28R8Ma5R6M4eR7N1e4RcM1aA",
  "1fR5M1Nf1R20A2bR2M23R2aN6M46RbM31R4M7aR1L1M36LfMbL14NaL1M2L2MaL3M31L4M2L2M7LeM30L3M24L5M1L9M",
  "3dL1McL2M34L9MaL4M2L1M5fL3M2L1M1L2M6L1M2L3fM5fL1M3LdM10L2M39L2M3L1M25L1aM3bL7McL1M1L1M1L1MeL",
  "1fM38L8M2L3M1L1M17L1M54L6M1L1M4L2M1L2MeeL6M4L2M1L2M1bL24M33L8M2L1M1L2M1fL20N2bL1M1L1M2L6M1L1M",
  "65L1M1L1M2L4M1L9MffL9M1L2M100L2M1L1M4L1M90L8M4L1M20L6M2L2M28L6M2L4M8L9M1L6M2L3M2eLdM1L2Mc6L1M",
  "1L3M1L1Mc9LeM54L17M1L7M1L2M1L4bM31L15M1L9M40L3M2L1M1L1M15bL2MbL2M34L8M2L1M1L1M17L56M25L2aN",
  "1441L1M6L19M2cbeLcM3L3M9c0L5M3bL7M418L1M3fL4M4fL1N1LcM4cadL2Mf61L300N50M217L3M11L8M2L7M1eL4M",
  "3bL59N3M7bN40L60N6a0L37M4L32M8L1MeL1M16L465M100L100M30L7M177L12M2cL4MfL1d1N1cL4MfeL2Mf3L1M2L1M",
  "7L2M5L9M102Ld0R52M22R7M5a5R260N1dL3N3dL39N7aLda0Nf0000L"]

/-- The direction with a label. -/
def ofLabel : String → Direction
  | "L" => .leftToRight
  | "R" => .rightToLeft
  | "A" => .arabicNumber
  | "E" => .europeanNumber
  | "M" => .mark
  | _ => .neutral

/-- The end of each run and its direction. -/
def runs : List (Nat × Direction) :=
  let rec go (start : Nat) : List Run → List (Nat × Direction)
    | [] => []
    | r :: rest => (start + r.length, ofLabel r.label) :: go (start + r.length) rest
  go 0 (Run.ofTable 1 table)

/-- The direction of a character. -/
def ofChar (c : Char) : Direction :=
  ((runs.find? fun run => c.toNat < run.1).map (·.2)).getD .neutral

/-- Whether a label runs in one direction. -/
def isLabel : List Direction → Bool
  | [] => true
  | first :: rest =>
    let rest := (rest.reverse.dropWhile (· = mark)).reverse
    match first with
    | leftToRight =>
      rest.getLast?.all [leftToRight, europeanNumber].contains &&
        rest.all fun d => d ≠ rightToLeft && d ≠ arabicNumber
    | rightToLeft =>
      rest.getLast?.all [rightToLeft, europeanNumber, arabicNumber].contains &&
        rest.all (· ≠ leftToRight) &&
        !(rest.contains europeanNumber && rest.contains arabicNumber)
    | _ => false

/-- Whether the labels of a name can be read in one way only. -/
def areLabels (labels : List (List Char)) : Bool :=
  let labels := labels.map (·.map ofChar)
  !(labels.any fun label => label.contains rightToLeft || label.contains arabicNumber) ||
    labels.all isLabel

end Direction

end EndpointMonitor
