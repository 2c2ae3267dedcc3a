import HeatStack.Unicode.CharSet

/-! # Directions of characters

Letters are written to the right or to the left, and numbers and marks go along with them in ways
of their own. -/
set_option autoImplicit false
namespace HeatStack.Unicode

inductive Direction
  | leftToRight
  | rightToLeft
  | arabicLetter
  | arabicNumber
  | number
  | numberSign
  | numberSeparator
  | numberEnd
  | neutral
  | boundary
  | mark
deriving DecidableEq

def directions : List Direction :=
  [.leftToRight, .rightToLeft, .arabicLetter, .arabicNumber, .number, .numberSign, .numberSeparator,
    .numberEnd, .neutral, .boundary, .mark]

/-- The directions of the characters of domain names. -/
def directionText : String :=
  String.join [
    "J9I5JeI7H3I5F1G1F1G2EaG1I12AqI4JyI1H4IaH6I15AoI1AchI2A7IeA2IsA1IhK35A4I2A3jI2A3vK8A73I5H2K19",
    "B1K1B1K2B1K2B1K9B1iI2C1H2C1G1C1I2KbC1cKlDaH1D2C3K1C2tK8I1K6C2K2I1K4C2EaCnK1CuKtC2hKbCfB17K9B",
    "2I4B3K1BoK4B1K9B1K3B1K7B15K5B2C1jK9C16K1lA1jK1A1K1A4K8A4K1A3KfA2K2AtK1A1mK1A4K6A6K1AkK4AcH2A",
    "7H1A2K5A1lK2A3KrAkK2A3K1AbK2A1lK1A4K8A4K3AiK4AbH8A1K8A1mK1A2K1A1K6A6KaAbK4AsK1A1pK1AcK3AzI6H",
    "1I6K1A3K1A1jK1A1K3A5KiAaK4AiI7A2K1A1mK1AfK9AdK4AqK2A1lK2A4K5A7K1AkK4ArK1A20K5A3K6A2hK1A2KbH1",
    "A7K8A2qK1A2K9AbK8A20K2ArK1A1K1A1K1I4A1fKeA1K5A1K2A5K1dA8K1A2uK4A1K6A1K2A2K2ApK2A4K3AgK4AdK1A",
    "2K2A6K1AfK1AjjK3A1cIgA2oI1AiiI5A36K3AtK2AuKeAiKeA1jK7A8K1A2KbA7H1A1K3AgIwA39K2AyK1A3aK3A4K2A",
    "9K1A6K7I6A48IyAnK2A2K3A1kK1A1K9A1K1A2K8A6KdA1cK2cA1cK1A1K5A1K1A5K1A14K9AcK2AwK4A2K2A1K3A1kK1",
    "A1K2A3K1A1K3A1mK8A2K5A45K3A1KdA1K7A4K1A6K1A3K2A5iK1tAejJ4IwH5IfG1I2jH1cK1gI16HcIkA1oI3sF1H1I",
    "82A1xIqA1IlyA1I9fA74ImoA51I7A3K4A6I7A3jK1A2oKwIedA3IpA9K4A2I1A6I4A2I4A2gK4A3I1A2iI1A5gI1cA5h",
    "sI1sAh3kI1sA8tI3A2nK4I1KaI3AtK2A28K2AeIzA2tI1A3dK1A3K1A4K1ApK2A1I4K4A8H8A1gIcA1wKaAiKiAdK1A1",
    "2K8ApKbA1aK3A1cK1A2K4A2K2A13K1A1vK6A2K2A2KbA3K1A8K1A1bK1A1fK1A1K3A2K2A5K2A1K1A16K2A8KbA2xI2e",
    "A11K1A2K1A4K3Afn2K44ChIgtK11I1aCb1A75I1A1qI25A3I1sA19K3nA2oK1EvA3aKaAw0B7zI1B69KfB14K8B4lK6B",
    "26I7BcgC10KcDgB15K5B6qDwB17K2BlCfI15K6B1cCmKbCvBiK4B3eA1K1A1iKfAbIkAaK1A2K2AaK3A1dK4A2K2A7Ke",
    "A1cK3A10K5A1K9A1pK1AcK2A1gK9AaK4A2K1A2nK3A2K1A1K2A6K1A2K1rA2nK1A3KdAgK2A1lK2A3K1A11KqA1nK7Ac",
    "K1A1K1A1K1AeKvA1kK8A2K3A1K1AnK1A2cK6A1K1A4K2A1K2A6mK6A4K2A1K2ArK10A1fK8A2K1A1K2AvIwA17K1A1K1",
    "A2K6A1K1A2tK3A2K4A1K9A73K9A1K2A74K2A1K1A4K1A40K8A4K1AwK6A2K2A14K6A2K4A8K9A1K6A2K3A1aKdA1K2A5",
    "iK1A1K3A1K1A5lKeA2cKnA1K7A1K2A1K23A1dKlA1K9A1sK3A2K1A1K1A9nK2AbK2A1gK8A2K1A1K1AnK2eA11I8H4Iu",
    "A401K1A6KpA8u6KcA3K3A1xcK5A1nK7At4K1A1rK4A27I1A1KcAf59K2A31dIlcK28AevK3AhK8A2K7AuK4A1nI2hK3I",
    "3fA1sI2oA1b4K1jA4K1eA8K1AeK1AmKv9A74K74A1cK7AafKiA18K4AfHcxAsK4A72K2A6rK1A2K1A7K2A5K9A76B5sK",
    "2aByK7BmeChrIgwAtI3A1pI1lA3eI1wb"]

def directionRuns : Runs := Runs.ofText directionText

def direction (c : Char) : Direction :=
  ((directionRuns.label? c.toNat).bind fun i => directions[i]?).getD .leftToRight

end HeatStack.Unicode
