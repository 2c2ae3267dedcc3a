import HeatStack.Text.Ascii
import HeatStack.Unicode.CharSet

/-! # Quoted text

The form in which a text is shown inside a structure: between quotes, with escapes for what is
not visible by itself. -/
set_option autoImplicit false
namespace HeatStack.Text
open HeatStack.Unicode

/-- Controls, formats, separators, unassigned and private code points, and marks that extend the
character before them.  The plain blank is not among them. -/
def hidden : CharSet := (Runs.ofText hiddenRuns).select (· == 1)
where
  hiddenRuns : String :=
    String.join [
    "BwA2nByAcB1AgiB34A8B2A6B4A7B1A1B1AkB1A68B7A4mB1A12B2A1eB2A3B1aA1B1A1B2A1B2A1B9ArB4A6BhAaBb",
    "A1B1A1aBlAgB1A2tB8A1B6A2B2A1B4AwB2A1B1AuBtA2hBbA1BeA17B9A7B3AoB4A1B9A1B3A1B7AfB1ApB5A1B1Ab",
    "B5AwBgA16B1lA1jB1A1B1A4B8A4B1A3B7AaB2AtB1A2B1A8B2A2B2AmB1A7B1A1B3A4B3A1B1A2B6A2B2A2B1A1BdA",
    "2B1A3B4AoB5A1B1A6B4A2B2AmB1A7B1A2B1A2B1A2B4A3BoA4B1A1B7AaB2A3B1A1BcA1B1A9B1A3B1AmB1A7B1A2B",
    "1A5B3A4B8A1B1A2B3A1BfA2B4AcB7A1B8A2B1A8B2A2B2AmB1A7B1A2B1A5B3A1B2A1B6A2B2A2BfA2B1A3B4AiBbA",
    "1B1A6B3A3B1A4B3A2B1A1B1A2B3A2B3A3B3AcB5A1B1A2B3A3B1A3B3A1BlAlB6A3B1A8B1A3B1AnB1AgB3A1B3A4B",
    "jA3B1A2B2A2B4AaB7AaB1AbB1A3B1AnB1AaB1A5B3A2B2A1B1A2BnA3B1A2B4AaB1A3BeAbB1A3B1A15B2A1B1A2B5",
    "A3B1A3B1A2B4A3B1AaB4AqB2A2B1AiB3AoB1A9B1A1B2A7B9A2B6A7B7AaB2A3BcA1cB1A2BbA8B8AdB11A2B1A1B1",
    "A5B1AoB1A1B1AaB1A2B9A1B2A5B1A1B9AaB2A4BwAoB2ArB1A1B1A1B1AeB1A10BiA1B5A1B2A5B1dA8B1A6B1AdB1",
    "1A19B4A1B6A1B2A2B2ApB2A4B3AgB4AdB1A2B2A6B1AfB1A14B1A1B5A1B2AahB1A4B2A7B1A1B1A4B2A15B1A4B2A",
    "xB1A4B2A7B1A1B1A4B2AfB1A1lB1A4B2A1vB5AtB3AqB6A2eB2A6B2AhsB1AsB3A2hB7AiBdAjB3A2B9AiBeAdB1A3",
    "BfA1gB2A1B7A8B1A2BbA9B3AaB6AaB6AbB5AaB6A2hB7A5B2AyB1A1B5A1yBaAvB4A4B2A3B4A2B1A6B7A1B3A16B2",
    "A5BbA18B4AqB6AbB3A1lB2A2B3A1kB1A1B9A1B1A2B8A6BdAaB6AaB6AeB2eA1cBaA4B3A8B1AtB9AcB2AwB4A2B6A",
    "1kB1A1B2A3B1A1BdA1cB8A2B5AfB3A1qB5A17B2AbBbA1BdA1B7A4B1A6B1A3B2A1B5A5cB1sA7qB2A6B2A12B2A6B",
    "2A8B1A1B1A1B1A1B1AvB2A1hB1AfB1AeB2A6B1AjB2A3B1A9BhAoB8A1bBhA2B2ArB1AdB3AyB1qA3wB4AiiBmAbBl",
    "A1ecB2AahB3A2B5A19B1A1B5A1B2A1kB7A2BfAnB9A7B1A7B1A7B1A7B1A7B1A7B1A7B1A7BxA2mByAqB1A2hBcA5y",
    "BqAgB1A15B6AgB1A2eB4A2tB5A17B1A2mB1A2eB9A1cB1AmlpB3A1jB9A9oBkA1bB4A1BaAwB2A28B2A6B8A65BkAh",
    "B1A3B1A4B1ApB2A5B4AaB6A1kB8A1wBaAcBoAdB1A12B8ApBbA1BcAuB6A1cB1A2B4A2B2A2B1AdB1AbB4A7B1ApB1",
    "A15B6A2B2A2BbA3B1A8B1A1B2AaB2AwB1A1fB1A1B3A2B2A5B2A1B1A1BoAhB2A8BbA6B2A6B2A6B9A7B1A7B1A1oB",
    "4A39B1A2B1A4B3AaB6A8mcBcAnB4A1dB6isAa6B2A2yB12A7BcA5B5A1B1AoB1A5B1A1B1A2B1A2B1Ai2BwAgBgAaB",
    "mAzB1AjB1A4B4A5B1A3rB4A4dB2AvB3A6B2A6B2A6B2A3B3A7B1A7BdA2B2AcB1AqB1AjB1A2B1AfB2AeByA3fB5A3",
    "B4A19B3A2gB1AdB3A1B1bA19B3nAtB3A1dBgArB4A10B9AuB5A12BaAuB1A11B4AeB16A4eB2AaB6A10B4A10B4A14",
    "B8A1gBbAcB1AfB1A7B1A2B1AbB1AfB1A7B1A2B3A1gBcA8nB9AmBaA8BoA6B1A16B1A9B1xA6B2A1B1A18B1A2B3A1",
    "B2AnB1A20B8A9B1cAjB1A2B5AxB3ArB5ArB12A1kB4AkB2A1bBfA4B1A3B1AtBaA9B7A9B7A1sBwA11B6AcB9A1iB3",
    "AtB2ArB5AqB7A4BcA7B28A21B1jA1fBdA1fB7A16BcAaB6A12B8AoB8A2B5sAvB1A16B3A1B2A2BgA6B8A9B13A14B",
    "8AmBbA9BmAiB4A4B12AsBkAnB9A1B1A1iBfA7B4AuB1A2B2A1BcA1dB4A2B2A2B1A4BeApB7AaB9A10B5A1B9AiB8A",
    "zB1A3BbA1gB9A1B1A8B4A2B1AgB1AkBbAiB1AsB3A2B4A6B1A2B1rA7B1A1B1A4B1AfB1AbB6A1bB1A3BdAaB8A2B1",
    "A8B2A2B2AmB1A7B1A2B1A5B3A1B1A1B1A4B2A2B2A2B3A1BcA7BsAaB1A1B2A1B1A12B1A1B1A2BfA1B1A2B3A1B1A",
    "3B1A2B13A1kB8A2B3A1B1AlB1A1B1A3BuA1cB1A2B6A1B1A2B1A1B2A1B2A4B8AaB4mA1bB1A2B6A4B2A1B2ArB10A",
    "1fB8A2B1A1B2A4BbAaB6AdBjA17B1A1B1A2B8A2B6AaB6AkBsArB3A1B1A2B4A1B9AnB55A1bB9A1B2A1B2sA2bBcA",
    "8B2A1B2A8B1A2B1AoB1A5B1A2B6A4B1A3B9AaB1yA8B2A16B8A4B1A4BrA1BaA14B6A2B4A8B9A1B6A2B3A1aBdA1B",
    "2A9BdA21B7AaB2fA1B3A1B1A1B2gAyBeAaB6A9B1A12BeA1B1A6BaAtB3AwBpA1B7A1B2A1B23A7B1A2B1A12BlA1B",
    "9AaB6A6B1A2B1A11B4A2B1A1B1A1B7AaB6A18B4AaB6uAjB2A4B9AfB1A10B8A2B3AnB2eA1BfA1eBdApnB2uA33B1",
    "A5BbA5gB218A2rBdAtsBhA6BpA32zB5Ag7B5a1AuBcA3B3AaB1c6AftB7AvB1AaB4A29B1AaB6AuB7A1BaA1cB7AfB",
    "aAaB1A7B1AlB5AjBc0A1mB5iA2jB5ApB2ApB18A23B5A1kBbAdB1sA4BeA5B9A5p2B15AwB2pA37B6ppA4B1A7B1A2",
    "B1A83BfA1BtA3B2A1BeA4B8Ab0B1s4A2zB5AdB3A9B7AaB2A1B2A1B31cA71B3Ac4B6AnBfAhB2nA38B1oA6uBaA13",
    "B2A1oB5A3BmA2B7AuB4A1pBlA1uB3A1B3eAkBcAkBcA2fB9ApB3rA2dB1A1zB1A2B2A1B2A2B2A4B1AcB1A1B1A7B1",
    "A1tB1A4B2A8B1A7B1AsB1A4B1A5B1A1B3A7B1A9gB2A84B2AfmB1jA4B1eA8B1AeB1A7BvoAvB6A6B79A1qB42A19B",
    "aA7B2AaB4A2B8wAuBiA18B4AaB5A1BcwAsB4AaB5yAuB2AbB4A1B5cAvB1A3B1A2B1A7B2A5B9A2B68A7B1A4B1A2B",
    "1AfB1A5hB2A9B1cA1wB7A1B4AaB4A2BltA1wB24A1pB5eA4B1ArB1A2B1A1B2A1B1AaB1A4B1A1B1A1B6A1B4A1B1A",
    "1B1A1B1A3B1A2B1A1B2A1B1A1B1A1B1A1B1A1B1A2B1A1B2A4B1A7B1A4B1A4B1A1B1AaB1AhB5A3B1A5B1AhB1gA2",
    "B7iA18B4A2sBcAfB2AfB1AfB1A11BaA4uB1kAtBdA18B4A9B7A2BeA6B4aArdB3AhB3AdB3A62B6AcB4A1BfAcB4A1",
    "kB8AaB6A14B8AuB2AcB4A2BeA9B13A9kB8AeB2AdB3AbB3A1lB1A1B4AgB2AcB4AaB7A43B1A2vBslAwyoBwA3dqB2",
    "A4geB2A5rlBfAhaB1wiAf2B15uA3t7B5A6juBjdl2"]

def quotedChar (c : Char) : List Char :=
  if c = '"' then ['\\', '"']
  else if c = '\\' then ['\\', '\\']
  else if c = '\n' then ['\\', 'n']
  else if c = '\r' then ['\\', 'r']
  else if c = '\t' then ['\\', 't']
  else if c = '\x00' then ['\\', '0']
  else if hidden.mem c then '\\' :: 'u' :: '\x7b' :: hex c.toNat ++ ['\x7d']
  else [c]

def quoted (s : String) : String := String.ofList ('"' :: s.toList.flatMap quotedChar ++ ['"'])

end HeatStack.Text
