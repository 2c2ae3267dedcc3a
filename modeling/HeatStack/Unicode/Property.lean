import HeatStack.Unicode.Category
import HeatStack.Unicode.Composition

/-! # Properties that a character has or has not

Most properties have a table, whose runs are labelled `B` where they hold; a few follow from
others. -/
set_option autoImplicit false
namespace HeatStack.Unicode

def asciiHexDigitText : String :=
  "A1cBaA7B6AqB6"

def alphabeticText : String :=
  String.join [
    "A1tBqA6BqA1bB1AaB1A4B1A5BnA1BvA1BcqA4BcAeB5A7B1A1B1A2eB1AtBiA1B2A2B4A1B1A6B1A1B3A1B1A1BkA1",
    "B2bA1B3vA8B4mA1B12A2B1A6B15A13BeA1B1A1B2A1B2A1B1A8BrA4B4AtBbA5B1kA1B7AeB2uA1B8A4B8A4B3AaB3",
    "A2B1AgB1cAdB2tAoBxA9B2A4B1A5BoA2BjAjBpA7BbA5BoA1B7A7B1A8B16AaBcA3B7A6B24A1BgA1B3A4BfAdBjA1",
    "B8A2B2A2BmA1B7A1B1A3B4A3B8A2B2A2B2A1B1A8B1A4B2A1B5AcB2AaB1A4B3A1B6A4B2A2BmA1B7A1B2A1B2A1B2",
    "A4B5A4B2A2B2A4B1A7B4A1B1AhB6AbB3A1B9A1B3A1BmA1B7A1B2A1B5A3B9A1B3A1B2A3B1AfB4AlB4A4B3A1B8A2",
    "B2A2BmA1B7A1B2A1B5A3B8A2B2A2B2A9B2A4B2A1B5AdB1AgB2A1B6A3B3A1B4A3B2A1B1A1B2A3B2A3B3A3BcA4B5",
    "A3B3A1B3A3B1A6B1A14BdA1B3A1BnA1BgA3B8A1B3A1B3A8B2A1B3A1B2A2B4AsB4A1B8A1B3A1BnA1BaA1B5A3B8A",
    "1B3A1B3A8B2A5B3A1B4AdB3AcBdA1B3A1B15A2B8A1B3A1B3A1B1A5B4A7B5AmB6A1B3A1BiA3BoA1B9A1B1A2B7A8",
    "B6A1B1A1B8AiB2AdB1mA5B7A6B1A1fB2A1B1A1B5A1BoA1B1A1BjA1B3A2B5A1B1A6B1AeB4AwB1A1rB8A1B10A4Bj",
    "A4BgA1B10A1vB1jA1B1A2B5AgB1sAaB4A2B12A1B1A5B1A2B17A1B99A1B4A2B7A1B1A1B4A2B15A1B4A2BxA1B4A2",
    "B7A1B1A1B4A2BfA1B1lA1B4A2B1vA11BgAgB2eA2B6A3Bh8A2BhA1BqA5B23A3BbA7BkAbBlAcBkAcBdA1B3A1B2Ac",
    "B1gA2BjAeB1A4B1A1vB2hA7B17A5B1yAaBvA1BcA4B9AnBuA2B5AbB18A4BqA1iBsA4B1rA2BkA1eB1AnB2AbB3A1d",
    "B1gA1BfA1B8A1fB16A2B4AaB18A1BbAeB1jAmB3AaB10A2BbA5B17A2B3A15B4A1B6A1B2A3B1A5B5cAjByAbB7qA2",
    "B6A2B12A2B6A2B8A1B1A1B1A1B1A1BvA2B1hA1B7A1B1A3B3A1B7A3B4A2B6A4BdA5B3A1B7A38B1AdB1AgBdA2tB1",
    "A4B1A2BaA1B1A3B5A6B1A1B1A1B1A1B4A1BbA2B4A5B5A4B1AhB15AmlB1gA1eeB6dA6B4A3B2AcB12A1B1A5B1A2B",
    "1kA7B1AgBnA9B7A1B7A1B7A1B7A1B7A1B7A1B7A1B7A1BwA1bB1Ad1B3ApB9A7B5A2B5A4B2eA6B3A1B2iA1B4A5B1",
    "7A1B2mAhBwA1cBgAe8B534A1sBh3hA1vB1aA2B7hA3BgAaB2AkB1bA5B8A3B35A13B9A2B2vA2B2aAkBlA1BxAoB1g",
    "AcB1wA1B1A18B6A3B1A1B3AaBxA5BzAdBtA3B1fA1BcAfB1AgBgAaB5A1B1jA9BeAiBnA3B1xA1B1A1B1AoB3A2BgA",
    "2B4AbB6A2B6A2B6A9B7A1B7A1B17A1BeA6B3fAlB8mcAcBnA4B1dA6isBa6A2B2yA12B7AcB5A5BcA1BdA1B5A1B1A",
    "1B2A1B2A1B30AxBa3AiB1sA2B1iA14BcA38B5A1B3rA10BqA6BqAbB2hA3B6A2B6A2B6A2B3AzBcA1BqA1BjA1B2A1",
    "BfA2BeAyB3fA1xB1hA7fBtA3B1dA1bBwAdBuA5B17A5BuA2B10A4B8A1B5A16B4eAiB10A4B10A4B14A8B1gAcBbA1",
    "BfA1B7A1B2A1BbA1BfA1B7A1B2A3B1gAcB8nA9BmAaB8AoB6A1B16A1B9A1xB6A2B1A1B18A1B2A3B1A2BnAaBnA9B",
    "vA1tBjA1B2AaBmAaBqA6BqA12B1kA6B2A1sB4A1B2A5B8A1B3A1BtA16BtA3BtAzB8A1BsArB1iAaBmAaBjAdBiA32",
    "B21A1jB1fAdB1fAdB14AyBsA3B1A5BnA6yB16A1B2A3B2AgB6A1eB3A3BtAaB1A8BmA16BiA1aBlArBnA9B1yA17B5",
    "AaB1lA9B1AdBpAnB1fAhB4A8BzA3B1A9B1sA1B4A9B2AaB1A1B1AzBiA1ByA2B1A6B4A1qB7A1B1A1B4A1BfA1BaA7",
    "B1lAnB4A1B8A2B2A2BmA1B7A1B2A1B5A3B8A2B2A2B2A3B1A6B1A5B7AsBaA1B1A2B1A1B12A1BaA1B1A2B1A1B4A1",
    "B2A3B1A1B1A18B1uA1B3A1B4AkB3AuB1uA2B2A1B1A54B1iA2B7ApB6AyB1rA1B1A3B1A1nB1iA2B1A1zBrA2BeAlB",
    "7A55B1lA2vB1sAvB8A2B1A2B8A1B2A1BuA1B2A2B2A2B4A2lB8A2B1aA2B6A1B1A1B2ArB1fA2BaAhB20A5B1AiB21",
    "A2vB8A2gBxAvB9A1B19A1B7A1B1A1dBuA2BmA1BeA21B7A1B2A1B18A3B1A1B2A1B3A1B1A2B2AoB6A1B2A1B11A1B",
    "2A1B4A1B1AnB18A78BnA9BhA1B15A3B3A33B1A27BpmA2uB33AhB5gA218B2pAfBtsAhB6ApB32zA5Bg7A5a1B1bA1",
    "chBftA7BvAhB27AhBuAiB1cAgB4AvBlA5BjAc0B19A5vB1sAwBpA2BpA18B23A4B1lA7BhA1sB2A1B1AcB7A9B5p2A",
    "15BwA2pB37A6ppB4A1B7A1B2A1B83AfB1AtB3A2B1AeB4A8Bb0A1s4B2zA5BdA3B9A7BaA4B1A4m9B2dA1B1zA1B2A",
    "2B1A2B2A2B4A1BcA1B1A1B7A1B1tA1B4A2B8A1B7A1BsA1B4A1B5A1B1A3B7A1B9gA2BpA1BpA1BvA1BpA1BvA1BpA",
    "1BvA1BpA1BvA1BpA1B8A1f8BvA6B6A5xB7A1BhA2B7A1B2A1B5A5B1qAxB1A34B19AaB7AgB1A8xBuAiB18AdgBsA6",
    "cBuA2B1A5rBvA1BmA8B2A68B7A1B4A1B2A1BfA1B5hA1nB1wA3B1A3B1AxgB4A1BrA1B2A1B1A2B1A1BaA1B4A1B1A",
    "1B1A6B1A4B1A1B1A1B1A1B3A1B2A1B1A2B1A1B1A1B1A1B1A1B1A1B2A1B1A2B4A1B7A1B4A1B4A1B1A1BaA1BhA5B",
    "3A1B5A1BhAhgBqA6BqA6BqA2uuBwyoAwB3dqA2B4geA2B5rlAfBhaA1wiBf2A15uB3t7A5B6ju"]

def bidiControlText : String :=
  "A17gB1A54hB2AqB5A1jB4"

def bidiMirroredText : String :=
  String.join [
    "A14B2AiB1A1B1AsB1A1B1AtB1A1B1A19B1AfB1A2v2B4A1gdB2A1wcB2AaB2A1iB2AeB2A4xB1A5cB4A3B6A3B1A3B",
    "2A3B4A1B4A1B1A1B1A4B9A5B1A1BiA5B4A9B2A1B1A1B8A1BwA2B4A5B1A9B2A2BjA5B2A9B5A2B2A4BoA2BgA8B4A",
    "kB2A7B2Au5BeA22B1A2B4A1B2A1B3A5B4A5B3A3BeAb7BmA2B6A1BeA8B1A7B6A3B1A4B5A1B2A2B5A4B1A1B3A2B2",
    "AaB6A2B2AcBjA1B4A2B1A1B1A2B1A1B4A5B2A6B3AoB2AbB2A4B4A1B2A2B2A4B17A2B8A1B14A5B1A1B1A3B5A5B3",
    "A4B1A3B5A1B1A74B1AebB4A3B2A1B2AeB2A2BaA17B8AbvBaA2B8A14qlB6A5B2A4iB2AiB1A1B1AsB1A1B1AtB1A1",
    "B1A1B2A1B2A16k7B1A1lB1A1lB1A1lB1A1lB1"]

def caseIgnorableText : String :=
  String.join [
    "A13B1A6B1AbB1AzB1A1B1A1zB1A4B1A1B1A4B1A2B2AdzB5cA4B2A4B1A9B2A1B1A6zB7A5rB1A5B1A1dB19A1B1A1",
    "B2A1B2A1B1A18B1AbB6AaBbA1B1AzB1AaBlAgB1A2tB8A1BaA1B4AxB1A1B1AuBrA2jBbA1mBbA4B1A2B1AoBoA17B",
    "3A18B1A7B2A5B9A15B1mA1jB1A1B1A4B8A4B1A3B7AaB2AdB1AfB1A1mB1A4B4A8B1AkB2AqB1A2B2A1lB1A4B2A4B",
    "2A2B3A3B1AuB2A3B1AbB2A1lB1A4B5A1B2A4B1AkB2AmB6A1B1A1mB1A2B1A1B4A8B1A7B2AbB2AuB1A1pB1AcB1A1",
    "eB1A3B1A1jB1A1B3A5B3A1B4A7B2AbB2AtB1A1mB1A2B1A6B1A5B2AkB2AsB2A1lB2A4B4A8B1AkB2AtB1A20B1A7B",
    "3A1B1A2iB1A2B7AbB9A2qB1A2B9A9B1A1B7A21B2ArB1A1B1A1B1A1jBeA1B5A1B2A5BbA1B10A9B1A2uB4A1B6A1B",
    "2A2B2ApB2A4B3AgB4AdB1A2B2A6B1AfB1A2mB1AgwB3AqaB3AtB2AuB2AuB2A1sB2A1B7A8B1A2BbA3B1A5B1A19B5",
    "A1fB1A1tB2AyB1A3aB3A4B2A9B1A6B3A63B2A2B1A1mB1A1B7A1B1A1B1A2B8A6BaA2B1A13B1A8B1aA2BcAkB4A1c",
    "B1A1B5A1B1A5B1A14B9AcB2AwB4A2B2A1B3A1kB1A1B2A3B1A1B3A1mB8A2B2A1sB6A2aB3A1BdA1B7A4B1A6B1A3B",
    "2A1eB1rAdB1AyB2tAcdB1A1B3AbB3AdB3AdB3AdB2AcB5A8B2AaB1A2B1A2B5A1dB5A1BaA1B1AdB1AgBdA1fBxA2a",
    "3B2A35B3A3hB1AfB1A2oBwA1bB1Ad1B1A10B4A3B5A5B1A2lB6A2lB3AlxyB1AyqB6A7iB1A2qB4A1BaA1B1AsB4A2",
    "8B2AeByA26B1AnB3A2uB4A3B2A8B1A3B1A4B1ApB2A5B1A47B2AqBiAdB1A12B8ApBbA1aB3A1cB1A2B4A2B2AhB1A",
    "lB2A1uB6A2B2A2B2AcB1A8B1AzB1AbB1A1fB1A1B3A2B2A5B2A1B1ArB1AeB2A5B2A1B1A2sB5A9B3A3dB1A2B1A4B",
    "1Afn4B1A43BhAfxBgA3B1AcBgAyB1A2B1A4pB1A7B1A6B1AbB1AzB1A1B1A1bB1A19B2A1vB1AlB3Ae9B1A6aB1A45",
    "B5AslB6A1B16A1B9Ag6B3A1B2A5B4A14B3A4B1A4lB2AfxB4A12B1AqB5A1B1A8rB2AoB1A1gB6A1yBbA1dB4A3fB1",
    "A1iBfA15B1A2B2AaB3A1dB4A2B2A2B1A4B1AaB1A1eB3A10B5A1B8A1qB1AcB2A1gB9AaB4A2B1A2nB3A2B1A1B2A6",
    "B1A2B1A4dB1A3B8AlB2A1lB2A3B1A11B7A3B5A1yB6AdB1A1B1A1B1AeB2A2dB8A2B3A1B1AnB1A2cB6A1B1A4B2A1",
    "B2A6mB4A6B2A1B2ArB2A2dB8A2B1A1B2A2yB1A1B1A2B6A1B1A2tB1A1B1A2B4A1B5A77B9A1B2A74B2A1B1A4B1A4",
    "0B4A2B2A4B1AwBaA14B6A2B4A8B1A9B6A2B3A1aBdA1B2A5iB1A1B3A1B1A5lB7A1B6A1B1A2aBmA2B7A1B2A1B2A3",
    "eB6A3B1A1B2A1B7A1B1A20B2A3B1A1B1A1tB1A7tB2AbB2A1gB5A5B1A1B1AnB1A445BhA6BfA8ugBcA3B3A1xcB5A",
    "1nB7A9B4Ae4B3A14B2AdeB1A1rBhA1sB2A1B2AdB2Acn0B4A1B7A1B2A2hqB2A1B4A3mkB1aA2BnAf4B3A9BgA2B7A",
    "uB4A44B3A1izB1jA4B1eA8B1AeB1AmB5A1BfA11sB7A1BhA2B7A1B2A1B5A5B1qAxB1A4gBeAa8B1A1pB4Ae3B5A72",
    "B2A6rB1A2B1A7B2A5B1A9B1AcwB7A31B8A23zB5Agx6pB1AuB2oA3kB6o"]

def casedText : String :=
  String.join [
    "A1tBqA6BqA1bB1AaB1A4B1A5BnA1BvA1B5fA1B4A4B5sA2BzA7B2AuB5A2oB1A16B4A2B2A2B4A1B1A6B1A1B3A1B1",
    "A1BkA1B2bA1B3vA8B4mA1B12A9B15A26vB12A1B1A5B1A2B17A1B4AioB2eA2B6A1oiBbA5B17A2B3A1sB5cA1sB7q",
    "A2B6A2B12A2B6A2B8A1B1A1B1A1B1A1BvA2B1hA1B7A1B1A3B3A1B7A3B4A2B6A4BdA5B3A1B7A38B1AdB1AgBdA2t",
    "B1A4B1A2BaA1B1A3B5A6B1A1B1A1B1A1B4A1B6A4B1A2B4A5B5A4B1AhBwA3B2AmpB1gA1eeB6dA6B4A3B2AcB12A1",
    "B1A5B1AnwyB1aAiBuA3oB2uA3B4A1B25AkB6A1B3AmtB17A1BeA6B28AfnkB7AcB5AspBqA6BqAx1B28A2oB10A4B1",
    "0A38BbA1BfA1B7A1B2A1BbA1BfA1B7A1B2AcjB1A2B3A1B16A1B9AxxB1fAdB1fA2lBmAaBmA26yB1sAgv4B1sAwBp",
    "A2BpAjzgB2dA1B1zA1B2A2B1A2B2A2B4A1BcA1B1A1B7A1B1tA1B4A2B8A1B7A1BsA1B4A1B5A1B1A3B7A1B9gA2Bp",
    "A1BpA1BvA1BpA1BvA1BpA1BvA1BpA1BvA1BpA1B8A1f8BaA1BkA6B6A79B1qA1oyB1wA1kcBqA6BqA6Bq"]

def changesWhenCasefoldedText : String :=
  String.join [
    "A1tBqA2iB1AaBnA1B8AwB1A1B1A1B1A1B1A1B1A1B1A1B1A1B1A1B1A1B1A1B1A1B1A1B1A1B1A1B1A1B1A1B1A1B1",
    "A1B1A1B1A1B1A1B1A1B1A1B1A1B1A1B1A1B1A1B1A2B1A1B1A1B1A1B1A1B1A1B1A1B1A1B1A1B2A1B1A1B1A1B1A1",
    "B1A1B1A1B1A1B1A1B1A1B1A1B1A1B1A1B1A1B1A1B1A1B1A1B1A1B1A1B1A1B1A1B1A1B1A1B1A1B2A1B1A1B1A1B1",
    "A1B2A1B1A1B2A1B3A2B4A1B2A1B3A3B2A1B2A1B1A1B1A1B2A1B1A2B1A1B2A1B3A1B1A1B2A3B1A7B2A1B2A1B2A1",
    "B1A1B1A1B1A1B1A1B1A1B1A1B1A1B1A2B1A1B1A1B1A1B1A1B1A1B1A1B1A1B1A1B1A2B2A1B1A1B3A1B1A1B1A1B1",
    "A1B1A1B1A1B1A1B1A1B1A1B1A1B1A1B1A1B1A1B1A1B1A1B1A1B1A1B1A1B1A1B1A1B1A1B1A1B1A1B1A1B1A1B1A1",
    "B1A1B1A1B1A1B1A7B2A1B2A2B1A1B4A1B1A1B1A1B1A1B1A6uB1A16B1A1B1A3B1A8B1A6B1A1B3A1B1A1B2A1BhA1",
    "B9AmB1AcB3A3B2A1B1A1B1A1B1A1B1A1B1A1B1A1B1A1B1A1B1A1B1A1B1A1B1A1B2A2B2A1B1A1B2A2B1fA1cB1A1",
    "B1A1B1A1B1A1B1A1B1A1B1A1B1A1B1A1B1A1B1A1B1A1B1A1B1A1B1A1B1A1B1A9B1A1B1A1B1A1B1A1B1A1B1A1B1",
    "A1B1A1B1A1B1A1B1A1B1A1B1A1B1A1B1A1B1A1B1A1B1A1B1A1B1A1B1A1B1A1B1A1B1A1B1A1B1A1B1A1B2A1B1A1",
    "B1A1B1A1B1A1B1A1B1A2B1A1B1A1B1A1B1A1B1A1B1A1B1A1B1A1B1A1B1A1B1A1B1A1B1A1B1A1B1A1B1A1B1A1B1",
    "A1B1A1B1A1B1A1B1A1B1A1B1A1B1A1B1A1B1A1B1A1B1A1B1A1B1A1B1A1B1A1B1A1B1A1B1A1B1A1B1A1B1A1B1A1",
    "B1A1B1A1B1A1B1A1B1A1B1A1B1A1B1A2B12A1cB1A26wB12A1B1A5B1AmiB6A1oiBaA6B17A2B3A8wB1A1B1A1B1A1",
    "B1A1B1A1B1A1B1A1B1A1B1A1B1A1B1A1B1A1B1A1B1A1B1A1B1A1B1A1B1A1B1A1B1A1B1A1B1A1B1A1B1A1B1A1B1",
    "A1B1A1B1A1B1A1B1A1B1A1B1A1B1A1B1A1B1A1B1A1B1A1B1A1B1A1B1A1B1A1B1A1B1A1B1A1B1A1B1A1B1A1B1A1",
    "B1A1B1A1B1A1B1A1B1A1B1A1B1A1B1A1B1A1B1A1B1A1B1A1B1A1B1A1B1A1B1A1B1A1B1A1B1A1B1A1B1A1B1A1B1",
    "A1B1A1B1A1B1A1B1A5B2A2B1A1B1A1B1A1B1A1B1A1B1A1B1A1B1A1B1A1B1A1B1A1B1A1B1A1B1A1B1A1B1A1B1A1",
    "B1A1B1A1B1A1B1A1B1A1B1A1B1A1B1A1B1A1B1A1B1A1B1A1B1A1B1A1B1A1B1A1B1A1B1A1B1A1B1A1B1A1B1A1B1",
    "A1B1A1B1A1B1A1B1A1B1A1B1A1B1A1B1A1B1A9B8A8B6AaB8A8B8A8B6AbB1A1B1A1B1A1B1A8B8AgB1cA2B3A2B6A",
    "5B3A2B6AbB4AcB5A5B3A2B6A89B1A3B2A6B1A19BgAjB1AmqBqA1f4B1cA1cB1A1B3A2B1A1B1A1B1A1B4A1B1A2B1",
    "A8B3A1B1A1B1A1B1A1B1A1B1A1B1A1B1A1B1A1B1A1B1A1B1A1B1A1B1A1B1A1B1A1B1A1B1A1B1A1B1A1B1A1B1A1",
    "B1A1B1A1B1A1B1A1B1A1B1A1B1A1B1A1B1A1B1A1B1A1B1A1B1A1B1A1B1A1B1A1B1A1B1A1B1A1B1A1B1A1B1A1B1",
    "A1B1A1B1A1B1A1B1A1B1A8B1A1B1A4B1AnylB1A1B1A1B1A1B1A1B1A1B1A1B1A1B1A1B1A1B1A1B1A1B1A1B1A1B1",
    "A1B1A1B1A1B1A1B1A1B1A1B1A1B1A1B1A1B1AjB1A1B1A1B1A1B1A1B1A1B1A1B1A1B1A1B1A1B1A1B1A1B1A1B1A1",
    "B1A3rB1A1B1A1B1A1B1A1B1A1B1A1B1A3B1A1B1A1B1A1B1A1B1A1B1A1B1A1B1A1B1A1B1A1B1A1B1A1B1A1B1A1B",
    "1A1B1A1B1A1B1A1B1A1B1A1B1A1B1A1B1A1B1A1B1A1B1A1B1A1B1A1B1A1B1A1B1AaB1A1B1A1B2A1B1A1B1A1B1A",
    "1B1A4B1A1B1A2B1A1B1A3B1A1B1A1B1A1B1A1B1A1B1A1B1A1B1A1B1A1B1A1B5A1B5A1B1A1B1A1B1A1B1A1B1A1B",
    "1A1B1A1B4A1B1A1B2A1B1A1B1A1B1A1B1A1B1A1B1A1B1A1B1AoB1AoqB28AfnkB7AcB5AspBqAxxB14A3sB10A4cB",
    "bA1BfA1B7A1B2A1d6B1fA4dBmA27uBwAgw0BwA1sBpAo5jBy"]

def changesWhenCasemappedText : String :=
  String.join [
    "A1tBqA6BqA1mB1AaBnA1BvA1B1sA1B2cA1BsA2BeA2B2A1B1A4B2lA1BiA6BrA1B2A1B1A1B2A3B2A1B4A1B5A2B1A",
    "1B2A2B1A7B1A2B1A1B2A3B6A5B1AaB2A4mB1A16B4A2B2A3B3A1B1A6B1A1B3A1B1A1BkA1B1bA3BxA1B5A1B3pA8B",
    "4mA1B12AaB13A26wB12A1B1A5B1A2B17A2B3AioB2eA2B6A1oiBbA5B17A2B3A55B1A3B1AgB1A35B4cA2B1A1B3aA",
    "2B6A2B12A2B6A2B8A1B1A1B1A1B1A1BvA2B1hA1B7A1B1A3B3A1B7A3B4A2B6A4BdA5B3A1B7A89B1A3B2A6B1ArB1",
    "AhBwA3B2AmpB1gA1eeB35A1B2A1B2A7B2uA7B4A3B2AcB12A1B1A5B1AnwyB1aAiBsA3qBeA2B1qA9BfA3B3A2B5A1",
    "BpA1B19AoB2AnwB1AsB28AfnkB7AcB5AspBqA6BqAx1B28A2oB10A4B10A38BbA1BfA1B7A1B2A1BbA1BfA1B7A1B2",
    "A1c3B1fAdB1fA2lBmAaBmA26yB1sAgv4B1sAwBpA2BpAo4sB1w"]

def changesWhenLowercasedText : String :=
  String.join [
    "A1tBqA2tBnA1B7AxB1A1B1A1B1A1B1A1B1A1B1A1B1A1B1A1B1A1B1A1B1A1B1A1B1A1B1A1B1A1B1A1B1A1B1A1B1",
    "A1B1A1B1A1B1A1B1A1B1A1B1A1B1A1B1A1B1A2B1A1B1A1B1A1B1A1B1A1B1A1B1A1B1A2B1A1B1A1B1A1B1A1B1A1",
    "B1A1B1A1B1A1B1A1B1A1B1A1B1A1B1A1B1A1B1A1B1A1B1A1B1A1B1A1B1A1B1A1B1A1B1A1B2A1B1A1B1A3B2A1B1",
    "A1B2A1B3A2B4A1B2A1B3A3B2A1B2A1B1A1B1A1B2A1B1A2B1A1B2A1B3A1B1A1B2A3B1A7B2A1B2A1B2A1B1A1B1A1",
    "B1A1B1A1B1A1B1A1B1A1B1A2B1A1B1A1B1A1B1A1B1A1B1A1B1A1B1A1B1A2B2A1B1A1B3A1B1A1B1A1B1A1B1A1B1",
    "A1B1A1B1A1B1A1B1A1B1A1B1A1B1A1B1A1B1A1B1A1B1A1B1A1B1A1B1A1B1A1B1A1B1A1B1A1B1A1B1A1B1A1B1A1",
    "B1A1B1A7B2A1B2A2B1A1B4A1B1A1B1A1B1A1B1A81B1A1B1A3B1A8B1A6B1A1B3A1B1A1B2A1BhA1B9AzB1A8B1A1B",
    "1A1B1A1B1A1B1A1B1A1B1A1B1A1B1A1B1A1B1A1B1A5B1A2B1A1B2A2B1fA1cB1A1B1A1B1A1B1A1B1A1B1A1B1A1B",
    "1A1B1A1B1A1B1A1B1A1B1A1B1A1B1A1B1A1B1A9B1A1B1A1B1A1B1A1B1A1B1A1B1A1B1A1B1A1B1A1B1A1B1A1B1A",
    "1B1A1B1A1B1A1B1A1B1A1B1A1B1A1B1A1B1A1B1A1B1A1B1A1B1A1B1A1B2A1B1A1B1A1B1A1B1A1B1A1B1A2B1A1B",
    "1A1B1A1B1A1B1A1B1A1B1A1B1A1B1A1B1A1B1A1B1A1B1A1B1A1B1A1B1A1B1A1B1A1B1A1B1A1B1A1B1A1B1A1B1A",
    "1B1A1B1A1B1A1B1A1B1A1B1A1B1A1B1A1B1A1B1A1B1A1B1A1B1A1B1A1B1A1B1A1B1A1B1A1B1A1B1A1B1A1B1A1B",
    "1A1B1A2B12A289B12A1B1A5B1Ak2B2eA1ozB1A6B17A2B3A8wB1A1B1A1B1A1B1A1B1A1B1A1B1A1B1A1B1A1B1A1B",
    "1A1B1A1B1A1B1A1B1A1B1A1B1A1B1A1B1A1B1A1B1A1B1A1B1A1B1A1B1A1B1A1B1A1B1A1B1A1B1A1B1A1B1A1B1A",
    "1B1A1B1A1B1A1B1A1B1A1B1A1B1A1B1A1B1A1B1A1B1A1B1A1B1A1B1A1B1A1B1A1B1A1B1A1B1A1B1A1B1A1B1A1B",
    "1A1B1A1B1A1B1A1B1A1B1A1B1A1B1A1B1A1B1A1B1A1B1A1B1A1B1A1B1A1B1A1B1A1B1A1B1A1B1A9B1A1B1A1B1A",
    "1B1A1B1A1B1A1B1A1B1A1B1A1B1A1B1A1B1A1B1A1B1A1B1A1B1A1B1A1B1A1B1A1B1A1B1A1B1A1B1A1B1A1B1A1B",
    "1A1B1A1B1A1B1A1B1A1B1A1B1A1B1A1B1A1B1A1B1A1B1A1B1A1B1A1B1A1B1A1B1A1B1A1B1A1B1A1B1A1B1A1B1A",
    "1B1A9B8A8B6AaB8A8B8A8B6AbB1A1B1A1B1A1B1A8B8AoB8A8B8A8B8A8B5AbB5AbB4AcB5AbB5A89B1A3B2A6B1A1",
    "9BgAjB1AmqBqA1f4B1cA1cB1A1B3A2B1A1B1A1B1A1B4A1B1A2B1A8B3A1B1A1B1A1B1A1B1A1B1A1B1A1B1A1B1A1",
    "B1A1B1A1B1A1B1A1B1A1B1A1B1A1B1A1B1A1B1A1B1A1B1A1B1A1B1A1B1A1B1A1B1A1B1A1B1A1B1A1B1A1B1A1B1",
    "A1B1A1B1A1B1A1B1A1B1A1B1A1B1A1B1A1B1A1B1A1B1A1B1A1B1A1B1A1B1A1B1A1B1A1B1A8B1A1B1A4B1AnylB1",
    "A1B1A1B1A1B1A1B1A1B1A1B1A1B1A1B1A1B1A1B1A1B1A1B1A1B1A1B1A1B1A1B1A1B1A1B1A1B1A1B1A1B1A1B1Aj",
    "B1A1B1A1B1A1B1A1B1A1B1A1B1A1B1A1B1A1B1A1B1A1B1A1B1A1B1A3rB1A1B1A1B1A1B1A1B1A1B1A1B1A3B1A1B",
    "1A1B1A1B1A1B1A1B1A1B1A1B1A1B1A1B1A1B1A1B1A1B1A1B1A1B1A1B1A1B1A1B1A1B1A1B1A1B1A1B1A1B1A1B1A",
    "1B1A1B1A1B1A1B1A1B1A1B1A1B1AaB1A1B1A1B2A1B1A1B1A1B1A1B1A4B1A1B1A2B1A1B1A3B1A1B1A1B1A1B1A1B",
    "1A1B1A1B1A1B1A1B1A1B1A1B5A1B5A1B1A1B1A1B1A1B1A1B1A1B1A1B1A1B4A1B1A1B2A1B1A1B1A1B1A1B1A1B1A",
    "1B1A1B1A1B1AoB1Ah7vBqAxxB14A3sB10A4cBbA1BfA1B7A1B2A1d6B1fA4dBmA27uBwAgw0BwA1sBpAo5jBy"]

def changesWhenTitlecasedText : String :=
  String.join [
    "A2pBqA1mB1A15BoA1B8A1B1A1B1A1B1A1B1A1B1A1B1A1B1A1B1A1B1A1B1A1B1A1B1A1B1A1B1A1B1A1B1A1B1A1B",
    "1A1B1A1B1A1B1A1B1A1B1A1B1A1B1A1B1A1B1A1B1A2B1A1B1A1B1A1B1A1B1A1B1A1B1A1B2A1B1A1B1A1B1A1B1A",
    "1B1A1B1A1B1A1B1A1B1A1B1A1B1A1B1A1B1A1B1A1B1A1B1A1B1A1B1A1B1A1B1A1B1A1B1A1B1A2B1A1B1A1B3A2B",
    "1A1B1A2B1A3B1A5B1A2B1A3B3A2B1A2B1A1B1A1B1A2B1A4B1A2B1A3B1A1B1A2B1A3B1A1B1A4B1A1B2A1B2A1B1A",
    "1B1A1B1A1B1A1B1A1B1A1B1A1B1A1B2A1B1A1B1A1B1A1B1A1B1A1B1A1B1A1B1A1B3A1B1A1B1A3B1A1B1A1B1A1B",
    "1A1B1A1B1A1B1A1B1A1B1A1B1A1B1A1B1A1B1A1B1A1B1A1B1A1B1A1B1A1B1A1B1A3B1A1B1A1B1A1B1A1B1A1B1A",
    "1B1A1B1A1B1A8B1A2B2A1B1A4B1A1B1A1B1A1B1A1B6A1B2A1B1A1B2A3B2A1B4A1B5A2B1A1B2A2B1A7B1A2B1A1B",
    "2A3B6A5B1AaB2A4mB1A17B1A1B1A3B1A3B3AiB1ArBzA1B2A3B3A1B1A1B1A1B1A1B1A1B1A1B1A1B1A1B1A1B1A1B",
    "1A1B1A1B5A1B1A2B1A2B1A1gB1cA1B1A1B1A1B1A1B1A1B1A1B1A1B1A1B1A1B1A1B1A1B1A1B1A1B1A1B1A1B1A1B",
    "1A1B1A9B1A1B1A1B1A1B1A1B1A1B1A1B1A1B1A1B1A1B1A1B1A1B1A1B1A1B1A1B1A1B1A1B1A1B1A1B1A1B1A1B1A",
    "1B1A1B1A1B1A1B1A1B1A1B1A2B1A1B1A1B1A1B1A1B1A1B1A1B2A1B1A1B1A1B1A1B1A1B1A1B1A1B1A1B1A1B1A1B",
    "1A1B1A1B1A1B1A1B1A1B1A1B1A1B1A1B1A1B1A1B1A1B1A1B1A1B1A1B1A1B1A1B1A1B1A1B1A1B1A1B1A1B1A1B1A",
    "1B1A1B1A1B1A1B1A1B1A1B1A1B1A1B1A1B1A1B1A1B1A1B1A1B1A1B1A1B1A1B1A1dB13A2uoB6A1oiB9A1B1A6mB1",
    "A3B1AgB1A36B1A1B1A1B1A1B1A1B1A1B1A1B1A1B1A1B1A1B1A1B1A1B1A1B1A1B1A1B1A1B1A1B1A1B1A1B1A1B1A",
    "1B1A1B1A1B1A1B1A1B1A1B1A1B1A1B1A1B1A1B1A1B1A1B1A1B1A1B1A1B1A1B1A1B1A1B1A1B1A1B1A1B1A1B1A1B",
    "1A1B1A1B1A1B1A1B1A1B1A1B1A1B1A1B1A1B1A1B1A1B1A1B1A1B1A1B1A1B1A1B1A1B1A1B1A1B1A1B1A1B1A1B1A",
    "1B1A1B1A1B1A1B1A1B1A1B1A1B1A1B1A1B1A1B7A5B1A1B1A1B1A1B1A1B1A1B1A1B1A1B1A1B1A1B1A1B1A1B1A1B",
    "1A1B1A1B1A1B1A1B1A1B1A1B1A1B1A1B1A1B1A1B1A1B1A1B1A1B1A1B1A1B1A1B1A1B1A1B1A1B1A1B1A1B1A1B1A",
    "1B1A1B1A1B1A1B1A1B1A1B1A1B1A1B1A1B1A1B1A1B1A1B1A1B9A8B6AaB8A8B8A8B6AaB8A8B8A8BeA2B8A8B8A8B",
    "8A8B5A1B2A6B1A3B3A1B2A8B4A2B2A8B8AaB3A1B2A9iB1AxBgA4B1AnfBqA1fqB1cA1B1A3B2A1B1A1B1A1B1A6B1",
    "A2B1AaB1A1B1A1B1A1B1A1B1A1B1A1B1A1B1A1B1A1B1A1B1A1B1A1B1A1B1A1B1A1B1A1B1A1B1A1B1A1B1A1B1A1",
    "B1A1B1A1B1A1B1A1B1A1B1A1B1A1B1A1B1A1B1A1B1A1B1A1B1A1B1A1B1A1B1A1B1A1B1A1B1A1B1A1B1A1B1A1B1",
    "A1B1A1B1A1B1A1B1A1B1A1B1A8B1A1B1A4B1AcB12A1B1A5B1AnwzB1A1B1A1B1A1B1A1B1A1B1A1B1A1B1A1B1A1B",
    "1A1B1A1B1A1B1A1B1A1B1A1B1A1B1A1B1A1B1A1B1A1B1A1B1A1B1AjB1A1B1A1B1A1B1A1B1A1B1A1B1A1B1A1B1A",
    "1B1A1B1A1B1A1B1A1B1A3rB1A1B1A1B1A1B1A1B1A1B1A1B1A3B1A1B1A1B1A1B1A1B1A1B1A1B1A1B1A1B1A1B1A1",
    "B1A1B1A1B1A1B1A1B1A1B1A1B1A1B1A1B1A1B1A1B1A1B1A1B1A1B1A1B1A1B1A1B1A1B1A1B1A1B1A1B1AaB1A1B1",
    "A2B1A1B1A1B1A1B1A1B1A4B1A4B1A1B2A2B1A1B1A1B1A1B1A1B1A1B1A1B1A1B1A1B1A1B1AbB1A1B1A1B1A1B1A1",
    "B1A1B1A1B1A1B1A4B1A1B1A2B1A1B1A1B1A1B1A1B1A1B1A1B1A1B1AqB1AnwB1AsB28AfnkB7AcB5AtlBqAy5B14A",
    "3sB10A4bBbA1BfA1B7A1B2A1dvB1fA3hBmA27uBwAgw0BwA1nBpAo5qBy"]

def changesWhenUppercasedText : String :=
  String.join [
    "A2pBqA1mB1A15BoA1B8A1B1A1B1A1B1A1B1A1B1A1B1A1B1A1B1A1B1A1B1A1B1A1B1A1B1A1B1A1B1A1B1A1B1A1B",
    "1A1B1A1B1A1B1A1B1A1B1A1B1A1B1A1B1A1B1A1B1A2B1A1B1A1B1A1B1A1B1A1B1A1B1A1B2A1B1A1B1A1B1A1B1A",
    "1B1A1B1A1B1A1B1A1B1A1B1A1B1A1B1A1B1A1B1A1B1A1B1A1B1A1B1A1B1A1B1A1B1A1B1A1B1A2B1A1B1A1B3A2B",
    "1A1B1A2B1A3B1A5B1A2B1A3B3A2B1A2B1A1B1A1B1A2B1A4B1A2B1A3B1A1B1A2B1A3B1A1B1A5B2A1B2A1B2A1B1A",
    "1B1A1B1A1B1A1B1A1B1A1B1A1B2A1B1A1B1A1B1A1B1A1B1A1B1A1B1A1B1A1B2A1B2A1B1A3B1A1B1A1B1A1B1A1B",
    "1A1B1A1B1A1B1A1B1A1B1A1B1A1B1A1B1A1B1A1B1A1B1A1B1A1B1A1B1A1B1A3B1A1B1A1B1A1B1A1B1A1B1A1B1A",
    "1B1A1B1A8B1A2B2A1B1A4B1A1B1A1B1A1B1A1B6A1B2A1B1A1B2A3B2A1B4A1B5A2B1A1B2A2B1A7B1A2B1A1B2A3B",
    "6A5B1AaB2A4mB1A17B1A1B1A3B1A3B3AiB1ArBzA1B2A3B3A1B1A1B1A1B1A1B1A1B1A1B1A1B1A1B1A1B1A1B1A1B",
    "1A1B5A1B1A2B1A2B1A1gB1cA1B1A1B1A1B1A1B1A1B1A1B1A1B1A1B1A1B1A1B1A1B1A1B1A1B1A1B1A1B1A1B1A1B",
    "1A9B1A1B1A1B1A1B1A1B1A1B1A1B1A1B1A1B1A1B1A1B1A1B1A1B1A1B1A1B1A1B1A1B1A1B1A1B1A1B1A1B1A1B1A",
    "1B1A1B1A1B1A1B1A1B1A2B1A1B1A1B1A1B1A1B1A1B1A1B2A1B1A1B1A1B1A1B1A1B1A1B1A1B1A1B1A1B1A1B1A1B",
    "1A1B1A1B1A1B1A1B1A1B1A1B1A1B1A1B1A1B1A1B1A1B1A1B1A1B1A1B1A1B1A1B1A1B1A1B1A1B1A1B1A1B1A1B1A",
    "1B1A1B1A1B1A1B1A1B1A1B1A1B1A1B1A1B1A1B1A1B1A1B1A1B1A1B1A1B1A1dB13A288B17A2B3Al4B6A1oiB9A1B",
    "1A6mB1A3B1AgB1A36B1A1B1A1B1A1B1A1B1A1B1A1B1A1B1A1B1A1B1A1B1A1B1A1B1A1B1A1B1A1B1A1B1A1B1A1B",
    "1A1B1A1B1A1B1A1B1A1B1A1B1A1B1A1B1A1B1A1B1A1B1A1B1A1B1A1B1A1B1A1B1A1B1A1B1A1B1A1B1A1B1A1B1A",
    "1B1A1B1A1B1A1B1A1B1A1B1A1B1A1B1A1B1A1B1A1B1A1B1A1B1A1B1A1B1A1B1A1B1A1B1A1B1A1B1A1B1A1B1A1B",
    "1A1B1A1B1A1B1A1B1A1B1A1B1A1B1A1B1A1B1A1B1A1B7A5B1A1B1A1B1A1B1A1B1A1B1A1B1A1B1A1B1A1B1A1B1A",
    "1B1A1B1A1B1A1B1A1B1A1B1A1B1A1B1A1B1A1B1A1B1A1B1A1B1A1B1A1B1A1B1A1B1A1B1A1B1A1B1A1B1A1B1A1B",
    "1A1B1A1B1A1B1A1B1A1B1A1B1A1B1A1B1A1B1A1B1A1B1A1B1A1B1A1B9A8B6AaB8A8B8A8B6AaB8A8B8A8BeA2B1h",
    "A1B2A4B1A1B1A3B3A1B2A4B1A3B4A2B2A8B8AaB3A1B2A4B1A9dB1AxBgA4B1AnfBqA1fqB1cA1B1A3B2A1B1A1B1A",
    "1B1A6B1A2B1AaB1A1B1A1B1A1B1A1B1A1B1A1B1A1B1A1B1A1B1A1B1A1B1A1B1A1B1A1B1A1B1A1B1A1B1A1B1A1B",
    "1A1B1A1B1A1B1A1B1A1B1A1B1A1B1A1B1A1B1A1B1A1B1A1B1A1B1A1B1A1B1A1B1A1B1A1B1A1B1A1B1A1B1A1B1A",
    "1B1A1B1A1B1A1B1A1B1A1B1A1B1A1B1A8B1A1B1A4B1AcB12A1B1A5B1AnwzB1A1B1A1B1A1B1A1B1A1B1A1B1A1B1",
    "A1B1A1B1A1B1A1B1A1B1A1B1A1B1A1B1A1B1A1B1A1B1A1B1A1B1A1B1A1B1AjB1A1B1A1B1A1B1A1B1A1B1A1B1A1",
    "B1A1B1A1B1A1B1A1B1A1B1A1B1A3rB1A1B1A1B1A1B1A1B1A1B1A1B1A3B1A1B1A1B1A1B1A1B1A1B1A1B1A1B1A1B",
    "1A1B1A1B1A1B1A1B1A1B1A1B1A1B1A1B1A1B1A1B1A1B1A1B1A1B1A1B1A1B1A1B1A1B1A1B1A1B1A1B1A1B1A1B1A",
    "aB1A1B1A2B1A1B1A1B1A1B1A1B1A4B1A4B1A1B2A2B1A1B1A1B1A1B1A1B1A1B1A1B1A1B1A1B1A1B1AbB1A1B1A1B",
    "1A1B1A1B1A1B1A1B1A1B1A4B1A1B1A2B1A1B1A1B1A1B1A1B1A1B1A1B1A1B1AqB1AnwB1AsB28AfnkB7AcB5AtlBq",
    "Ay5B14A3sB10A4bBbA1BfA1B7A1B2A1dvB1fA3hBmA27uBwAgw0BwA1nBpAo5qBy"]

def dashText : String :=
  String.join [
    "A19B1A124B1A1fB1A2tdB1AslB1A1l5B6A1pB1A13B1AfB1AauB1A2dgB1A2B1AvB2A4B1AsB1AceB1AjB1A33B1A1",
    "4lsB2A11B1AaB1A4pB1A2u8B1A8uB1"]

def defaultIgnorableCodePointText : String :=
  String.join [
    "A4tB1AipB1AjwB1A282B2A18zB2A2dB5A1krB5AqB5A1dBgA3ckB1A14ezBgA6nB1A4gB1A27B9A119jB4A43zB8Ah",
    "405B35s"]

def deprecatedText : String :=
  "A95B1A10pB1A1s3B1A1B1A1m1B2A1qdB6AjdB2Ajh06B1"

def diacriticText : String :=
  String.join [
    "A2mB1A1B1A1zB1A6B1A4B1A2B2AdzB4fA1B8A5B6AhB2A4B1A9B2A71B5A5tB1A1jB19A1B1A1B2A1B2A1B1A3nB8A",
    "4B2A3qB2A4B2A3B3A1vBrA2jBbA1mBbAyB2A3iB8A15BaAgBsA1pB1AgB1A3B4AsB1A22B1AgB1A32B1AgB1A32B1A",
    "gB1A1bB3A1oB1AgB1A7B1A3bB1A32B1AgB1A32B1AgB1A31B2AgB1A3gB1A33B1AcB6A1B1A2zB1AdB5A23B2ArB1A",
    "1B1A1B1A4B2A1uB3A1B2A1qB1A34B1A1B2A14B2A4B5ApB7A1B1AaB2AjlB3AqcB2AuB1A44BbA9B1A9nB3A84B1Ak",
    "B8A2B1A1cBfA2BbA3BfA2BcA20B1AfB1A12B9A1iB2A1mB1AbB2A1uB2A1sB6A2aBpA4B1A6B1A2B3A1eB1rA1cB10",
    "A5BcA11BbAcdB1A1B3AbB3AdB3AdB3AdB2A2k0B3A8tB1Ae2B6A2xB4A2nB1An76B1AcB2A1B1AsB2A2aB2AeByA2u",
    "B3A2uB1A6B2AcB1A11B1A47B1ArBiA1lB4A10B1A2nB1AcB1A10B1A45B3A1tB4A1fB1A2sB5A9B3A3kB2Afn4B1Al",
    "dBgA7iB1A1B1A1bB1A19B2A1vB1Al8B1AwvB6A1B16A1B9AhpB3A4B1A4lB2AfvB6A12B1AqB5Ab0B1A2B3A1yBbA1",
    "dB4A5cB1A15B1A20B2A3cB2A1qB1A24B1A9B3A2wB2A4yB2A28B2AgB1AoB7A3B5A2hB3A1B2AdB2A2nB1A3B1A3fB",
    "2A6zB2A3iB1A3aB2A37B1A7hB2A76B2A4B1A4cB1A2bB1AiB1A29B1AbpB1A76B1A1B2A29B1A1tB1A9zB2AnB1A44",
    "sBfA8uxB1A1xcB5A1nB7AfoB2Af6BhA28B2Acn2B4A1B7A1B2A64hB1aA2BnAf4B3A3B6A8B8A2B7AuB4A2v6B1qA5",
    "eB7AafB1A1pB4AlaB2AkgB7A31B3A1B3"]

def emojiText : String :=
  String.join [
    "AzB1A6B1A5BaA33B1A4B1A68dB1AcB1A60B1AmB1A2iB6AfB2Aa7B2AcB1A4mB1ApBbA4B3A5jB1A6fB2AaB1A9B1A",
    "1mB4A1B5A9B1A2B1A2B2A2B1A4B1A2B1A1B2A2B1A3B1A3B2A8B3A5B1A1B1A5BcAbB2A2B1A1B2A1B1AiB1A2B2Ai",
    "B6A1B1A1B2A3B2A5B1A2B2A4B2AbB2A5B2A2B1A5B2A1B1A1B2AkB2A5B6A1B4A2B1A4B1A2B1A2B6A1B1A2B1A1B1",
    "A1B1A6B1A3B1A6B1AaB2AfB1A2B1A4B1A1B1A4B3A1B1AbB2A1cB3A9B1AeB1AeB1AacB2AcvB3AjB2A1fB1A4B1Ay",
    "iB1AcB1AgpB1A1B1A2fzeB1A5mB1A4gB2AcB2AeB1A2BaA23BqA1B2AnB1AkB1A2B9AlB2A4uByA2B34A2B2A1B3A2",
    "B2bA2B3A1B7bA1B1rAbB6A1BoA7B2A2B8AcB1A2B4A2B1A4B2AdB2A2B1A8B2A9B1A5B3AcB3A8B3A2B1A1B1A4B1A",
    "6B1A3B1A6B2eA1cB1yA5B8A2B4A3BaA3B1A1B2A3B1A2BaA6bBcA4B1A7vB1bA1BaA1B55A34BdA3BbA3B1lA1B1A4",
    "BgA2BcA4Ba"]

def emojiComponentText : String :=
  "AzB1A6B1A5BaA6abB1A5xB1A17orB1A1c5yBqAe3B5A14gB4Agw30B2o"

def emojiModifierText : String :=
  "A2qrfB5"

def emojiModifierBaseText : String :=
  String.join [
    "A7j1B1A63B1AgB4A2iyfB1A1oB3A2B1A2B3A39B2A2BbAlBjA3B1A4B3A1B3A7B1A1B1AoB1A5lB2A4B1AlB1A4B2A",
    "4uB3A3B5A2bB1AgB3A9B1AbB1AfzB1A2B1A8B8A6B1A9BaA2B3A1kB1A1pB2A1B2A1B1AhB3A1BdA6dB3A16B9"]

def emojiPresentationText : String :=
  String.join [
    "A6xmB2A5pB4A3B1A2B1AehB2AlB2A1eBcA17B1AjB1AdB1A8B2AhB2A5B2A8B1A5B1AlB1A7B2A1B1A4B1A2B1A7B1",
    "A4B2AsB1AzB1A1B1A4B3A1B1A1pB3AoB1AeB1AnvB2A1fB1A4B1A2hf2B1A5mB1A5aB1A2BaA23BqA1B1AoB1AkB1A",
    "2B5A1B3AlB2A4uBxAcB9A1B1yA1BmAcB17A4B5AcBhA3B1A3B1zA1B1A1B57A2B1rAdB4A1BoAiB1AqB2AdB1A2eB2",
    "dA1cB1yA6B1A3B3A2B4A3B4AbB2A7B9A6bBcA4B1A7vB1bA1BaA1B55A34BdA3BbA3B1lA1B1A4BgA2BcA4Ba"]

def extendedPictographicText : String :=
  String.join [
    "A4pB1A4B1A68dB1AcB1A60B1AmB1A2iB6AfB2Aa7B2AcB1A4mB1ApBbA4B3A5jB1A6fB2AaB1A9B1A1mB4A1B5A9B1",
    "A2B1A2B2A2B1A4B1A2B1A1B2A2B1A3B1A3B2A8B3A5B1A1B1A5BcAbB2A2B1A1B2A1B1AiB1A2B2AiB6A1B1A1B2A3",
    "B2A5B1A2B2A4B2AbB2A5B2A2B1A5B2A1B1A1B2AkB2A5B6A1B4A2B1A4B1A2B1A2B6A1B1A2B1A1B1A1B1A6B1A3B1",
    "A6B1AaB2AfB1A2B1A4B1A1B1A4B3A1B1AbB2A1cB3A9B1AeB1AeB1AacB2AcvB3AjB2A1fB1A4B1AyiB1AcB1AgpB1",
    "A1B1A2fzeB1A13B4A2sBcAfB2AfB1AeB2A11BaA34B2AcB2AeB1A2BaAjB1kArBfAaB1AkB1A2B9A1B4A9BnA6B58A",
    "2B34A2B2A1B3A2B2bA2B3A1B4A5B72A1B1rAbB6A1BoA7B2A2B8AcB1A2B4A2B1A4B2AdB2A2B1A8B2A9B1A5B3AcB",
    "3A8B3A2B1A1B1A4B1A6B1A3B1A6B2eA1cB1yA5B8A2BhA3B1A1B6A2BdA62B12AcB4A1kB8AaB6A14B8AuB2AcB4A2",
    "BeA9B13AcB1bA1BaA1B55A2gB8AeB42A74Bse"]

def extenderText : String :=
  String.join [
    "A53B1AewB2AoeB1Ac9B1AhiB1A3tB1A2hB1AkwB1A3jB1A1tvB1A1kB1AgzB1Ab2B1A1wB1A3uxB1A17B5A2vB2A2l",
    "B3AlxyB1A16eB1AqqB1AmB1A3tB1A30B1AlB2AgorB1A1lcB2A157B1ArB1A4B1AxzB1A85B1A38B2AduB3Ay7B1An",
    "4B1AfagB2AwsB2A1B1AeB2AmdkB2AxdB1AnoB3"]

def graphemeBaseText : String :=
  String.join [
    "AwB2nAxBdA1BgiA34B8A2B6A4B7A1B1A1BkA1B68A7B4mA1B12A2B1eA2B3A1aB1A1B1A2B1A2B1A9BrA4B6AhBaAb",
    "B1A1B1aAlBgA1B2tA8B1A6B2A2B1A4BwA2B1A1BuAtB2hAbB1AeB17A9B7A3BoA4B1A9B1A3B1A7BfA1BpA5B1A1Bb",
    "A5BwAgB16A1lB1jA1B1A1B4A8B4A1B3A7BaA2BtA1B2A1B8A2B2A2BmA1B7A1B1A3B4A3B1A1B2A6B2A2B2A1B1AdB",
    "2A1B3A4BoA5B1A1B6A4B2A2BmA1B7A1B2A1B2A1B2A4B3AoB4A1B1A7BaA2B3A1B1AcB1A1B9A1B3A1BmA1B7A1B2A",
    "1B5A3B4A8B1A1B2A3B1AfB2A4BcA7B1A8B2A1B8A2B2A2BmA1B7A1B2A1B5A3B1A2B1A6B2A2B2AfB2A1B3A4BiAbB",
    "1A1B6A3B3A1B4A3B2A1B1A1B2A3B2A3B3A3BcA5B1A1B2A3B3A1B3A3B1AlBlA6B3A1B8A1B3A1BnA1BgA3B1A3B4A",
    "jB3A1B2A2B2A4BaA7BaA1BbA1B3A1BnA1BaA1B5A3B2A2B1A1B2AnB3A1B2A4BaA1B3AeBbA1B3A1B15A2B1A1B2A5",
    "B3A1B3A1B2A4B3A1BaA4BqA2B2A1BiA3BoA1B9A1B1A2B7A9B2A6B7A7BaA2B3AcB1cA1B2AbB8A8BdA11B2A1B1A1",
    "B5A1BoA1B1A1BaA1B2A9B1A2B5A1B1A9BaA2B4AwBoA2BrA1B1A1B1A1BeA1B10AiB1A5B1A2B5A1dB8A1B6A1BdA1",
    "1B19A4B1A6B1A2B2A2BpA2B4A3BgA4BdA1B2A2B6A1BfA1B14A1B1A5B1A2BahA1B4A2B7A1B1A1B4A2B15A1B4A2B",
    "xA1B4A2B7A1B1A1B4A2BfA1B1lA1B4A2B1vA5BtA3BqA6B2eA2B6A2BilA3B2hA7BiAdBjA3B2A9BiAeBdA1B3AfB1",
    "gA2B1A7B8A1B2AbB9A3BaA6BaA6BbA5BaA6B2hA7B5A2ByA1B1A5B1yAaBvA4B4A2B3A4B2A1B6A7B1A3B16A2B5Ab",
    "B18A4BqA6BbA3B1lA2B2A3B1kA1B1A9B1A1B2A8B6AdBaA6BaA6BeA2eB1cAaB4A3B8A1BtA9BcA2BwA4B2A6B1kA1",
    "B1A2B3A1B1AdB1cA8B2A5BfA3B1qA5B17A2BbAbB1AdB1A7B4A1B6A1B3A2B1A5B5cA1sB7qA2B6A2B12A2B6A2B8A",
    "1B1A1B1A1B1A1BvA2B1hA1BfA1BeA2B6A1BjA2B3A1B9A1BbA5BoA7B1dAgB2A2BrA1BdA3ByA1qB3wA4BiiAmBbAl",
    "B1ecA2BahA3B2A5B19A1B1A5B1A2B1kA7B2AfBnA9B7A1B7A1B7A1B7A1B7A1B7A1B7A1B7AxB2mAyBqA1B2hAcB5y",
    "AqB1mA6BgA1B2eA4B2tA5B17A1B2mA1B2eA9B1cA1BmlpA3B1jA9B9oAkB1bA4B1AaBwA2B28A2B6A8B65AkBhA1B3",
    "A1B4A1BpA2B5A4BaA6B1kA8B1wAaBcAoBdA1B12A8BpAbB1AcBuA6B1cA1B2A4B2A2B2A1BdA1BbA4B7A1BpA1B15A",
    "6B2A2B2AbB3A1B8A1B1A2BaA2BwA1B1fA1B1A3B2A2B5A2B1A1B1AoBhA2B8AbB6A2B6A2B6A9B7A1B7A1B1oA4B39",
    "A1B2A1B4A3BaA6B8mcAcBnA4B1dA6isBa6A2B2yA12B7AcB5A5B1A1BoA1B5A1B1A1B2A1B2A1Bi2AwBgAgBaAmBzA",
    "1BjA1B4A4B5A1B3rA4B4dA2BvA3B6A2B6A2B6A2B3A3B7A1B7AdB2A2BcA1BqA1BjA1B2A1BfA2BeAyB3fA5B3A4B1",
    "9A3B2gA1BdA3B1A1bB19A3nBtA3B1dAgBrA4B10A9BuA5B12AaBuA1B11A4BeA16B4eA2BaA6B10A4B10A4B14A8B1",
    "gAbBcA1BfA1B7A1B2A1BbA1BfA1B7A1B2A3B1gAcB8nA9BmAaB8AoB6A1B16A1B9A1xB6A2B1A1B18A1B2A3B1A2Bn",
    "A1B20A8B9A1cBjA1B2A5BxA3BrA5BrA12B1kA4BkA2B1bAfB4A1B3A1BtAaB9A7B9A7B1sAwB11A6BcA9B1iA3BtA2",
    "BrA5BqA7B4AcB7A28B21A1jB1fAdB1fA7B16AcBaA6B12A8BoA8B2A5sBvA1B16A3B1A2B2AgB6A8B9A13B14A8BmA",
    "bB9AmBiA4B4A12BsAkBnA9B1A1B1iAfB7A4BuA1B2A2B1AcB1dA4B2A2B2A1B4AeBpA7BaA9B10A5B1A9BiA8BzA1B",
    "3AbB1gA9B1A1B8A4B2A1BgA1BkAbBiA1BsA3B2A4B6A1B2A1rB7A1B1A1B4A1BfA1BbA6B1bA1B3AdBaA8B2A1B8A2",
    "B2A2BmA1B7A1B2A1B5A3B1A1B1A1B4A2B2A2B2A3B1AcB7AsBaA1B1A2B1A1B12A1B1A1B2AfB1A1B2A3B1A1B3A1B",
    "2A13B1kA8B2A3B1A1BlA1B1A1B3AuB1cA1B2A6B1A1B2A1B1A2B1A2B4A8BaA4mB1bA1B2A6B4A2B1A2BrA10B1fA8",
    "B2A1B1A2B4AbBaA6BdAjB17A1B1A1B2A8B2A6BaA6BkAsBrA3B1A1B2A4B1A9BnA55B1bA9B1A2B1A2sB2bAcB8A2B",
    "1A2B8A1B2A1BoA1B5A1B2A6B4A1B3A9BaA1yB8A2B16A8B4A1B4ArB1AaB14A6B2A4B8A9B1A6B2A3B1aAdB1A2B9A",
    "dB21A7BaA2fB1A3B1A1B1A2gByAeBaA6B9A1B12AeB1A1B6AaBtA3BwApB1A7B1A2B1A23B7A1B2A1B12AlB1A9BaA",
    "6B6A1B2A1B11A4B2A1B1A1B1A7BaA6B18A4BaA6uBjA2B4A9BfA1B10A8B2A3BnA2eB1AfB1eAdBpnA2uB33A1B5Ab",
    "B5gA218B2rAdBtsAhB6ApB32zA5Bg7A5a1BuAcB3A3BaA1c6BftA7BvA1BaA4B29A1BaA6BuA7B1AaB1cA7BfAaBaA",
    "1B7A1BlA5BjAc0B1mA5iB2jA5BpA2BpA18B23A5B1kAbBdA1sB4AeB5A9B5p2A15BwA2pB37A6ppB4A1B7A1B2A1B8",
    "3AfB1AtB3A2B1AeB4A8Bb0A1s4B2zA5BdA3B9A7BaA2B1A2B1A31cB71A3Bc4A6BnAfBhA2nB38A1oB6uAaB13A2B1",
    "oA5B3AmB2A7BuA4B1pAlB1uA3B1A3eBkAcBkAcB2fA9BpA3rB2dA1B1zA1B2A2B1A2B2A2B4A1BcA1B1A1B7A1B1tA",
    "1B4A2B8A1B7A1BsA1B4A1B5A1B1A3B7A1B9gA2B84A2BfmA1jB4A1eB8A1BeA1B7AvoBvA6B6A79B1qA42B19AaB7A",
    "2BaA4B2A8wBuAiB18A4BaA5B1AcwBsA4BaA5yBuA2BbA4B1A5cBvA1B3A1B2A1B7A2B5A9B2A68B7A1B4A1B2A1BfA",
    "1B5hA2B9A1cB1wA7B1A4BaA4B2AltB1wA24B1pA5eB4A1BrA1B2A1B1A2B1A1BaA1B4A1B1A1B1A6B1A4B1A1B1A1B",
    "1A1B3A1B2A1B1A2B1A1B1A1B1A1B1A1B1A1B2A1B1A2B4A1B7A1B4A1B4A1B1A1BaA1BhA5B3A1B5A1BhA1gB2A7iB",
    "18A4B2sAcBfA2BfA1BfA1B11AaB4uA1kBtAdB18A4B9A7B2AeB6A4aBrdA3BhA3BdA3B62A6BcA4B1AfBcA4B1kA8B",
    "aA6B14A8BuA2BcA4B2AeB9A13B9kA8BeA2BdA3BbA3B1lA1B1A4BgA2BcA4BaA7B43A1B2vAslBwyoAwB3dqA2B4ge",
    "A2B5rlAfBhaA1wiBf2A15uB3t7A5B6ju"]

def graphemeExtendText : String :=
  String.join [
    "AlcB34A7nB7A7bB19A1B1A1B2A1B2A1B1A20BbA1cBlAgB1A2tB7A2B6A2B2A1B4AzB1AuBrA2jBbA1mB9A9B1AoB4",
    "A1B9A1B3A1B5A17B3A1nB9A16BoA1BwA1jB1A1B1A4B8A4B1A3B7AaB2AtB1A1mB1A1B1A2B4A8B1A9B1AaB2AqB1A",
    "2B2A1lB1A4B2A4B2A2B3A3B1AuB2A3B1AbB2A1lB1A4B5A1B2A4B1AkB2AmB6A1B1A1mB1A1B2A1B4A8B1A7B3AaB2",
    "AuB1A1nB1A1B1AcB1A9B1A14B1A3B1A1jB1A1B3A5B3A1B4A7B2AbB2AtB1A1mB1A2B2A1B1A3B3A1B4A7B2AbB2As",
    "B2A1lB2A1B1A2B4A8B1A9B1AaB2AtB1A20B1A4B1A2B3A1B1A8B1A29B1A2B7AcB8A2qB1A2B9AbB7A21B2ArB1A1B",
    "1A1B1A1jBeA1B5A1B2A5BbA1B10A9B1A2uB4A1B6A1B2A2B2ApB2A4B3AgB4AdB1A2B2A6B1AfB1AjjB3AqaB4AsB3",
    "AtB2AuB2A1sB2A1B7A8B1A2BbA9B1A19B3A1B1A39B2AyB1A3aB3A4B2A9B1A6B3A63B2A2B1A1mB1A1B7A1B1A1B1",
    "A2B8A6BaA2B1A1cB1aA2BcAkB4A1cBaA4B3A12B9AcB2AwB4A2B6A1kB1A1B2A3B1A1B5A1kB8A2B2A48B3A1BdA1B",
    "7A4B1A6B1A3B2A5iB1sAekB1A5fBxA2daB3A3xB1A2oBwAfeB6A2xB2An9wB4A1BaAwB2A28B2A7kB1A3B1A4B1ApB",
    "2A5B1A47B2AqBiAdB1A12B8ApBbA1B1A18B3A1cB1A2B4A2B2A2B1A10B1A1vB6A2B2A2B2AcB1A8B1A1bB1A1fB1A",
    "1B3A2B2A5B2A1B1A16B2A8B1A6mB1A2B1A4B1Afn4B1AkhBgAgBgAa6B2AgtB1A6aB1A45B5A1aeB3A1B2A5B4A14B",
    "3A4B1A4lB2AfxB4A1tB5A8tB2A25B6A1yBbA1dB4A3fB1A1iBfA15B1A2B2AaB3A1dB4A2B2A7B1A1pB3A10B5A1B8",
    "A1qB1AcB2A1gB9A1B1A8B4A2B1A2nB3A2B4A6B1A2B1A4dB1A3B8AlB2A1lB2A1B1A1B1AcB1A9B1AeB7A3B5A1vB1",
    "A2B6A1B1A2B1A1B3A4B3A1B1AeB2A2dB8A2B3A1B1AnB1A29B1A2B6A1B1A2B1A1B2A1B2A6jB1A2B4A6B2A1B2ArB",
    "2A2dB8A2B1A1B2A2yB1A1B1A2B8A2tB1A1B1A2B4A1B5A77B9A1B2A6tB1AaB4A4B1A40B4A2B2A4B1AwBaA14B6A2",
    "B4A8B1A9B6A2B3A1aBdA1B2A5iB1A1B3A1B1A5lB7A1B6A1B1A2aBmA2B7A1B2A1B2A3eB6A3B1A1B2A1B7A1B1A20",
    "B2A3B1A1B1A9nB2AbB2A1gB5A5B3AnB1A44lB1A6BfA8ugBcA3B3A1xcB5A1nB7At4B1A1rB4A29B1AbB2Af57B2A3",
    "mpB1aA2BnAf2B5A3B6A8B8A2B7AuB4A44B3A1izB1jA4B1eA8B1AeB1AmB5A1BfA11sB7A1BhA2B7A1B2A1B5A2sB1",
    "A4gB7AafB1A1pB4Ae4B4A72B2A6rB1A2B1A7B2A5B1Ad6B7A31B7AgzbpB2oA3kB6o"]

def hexDigitText : String :=
  "A1cBaA7B6AqB6A1eaxBaA7B6AqB6"

def idsBinaryOperatorText : String :=
  "A9gwB2A2BaAdtB1"

def idsTrinaryOperatorText : String :=
  "A9gyB2"

def idContinueText : String :=
  String.join [
    "A1cBaA7BqA4B1A1BqA1bB1AaB1A1B1A2B1A5BnA1BvA1BcqA4BcAeB5A7B1A1B1AhB39A1B2A2B4A1B1A6B5A1B1A1",
    "BkA1B2bA1B3vA1B5A2B4mA1B12A2B1A6B15A8B19A1B1A1B2A1B2A1B1A8BrA4B4AtBbA5B22A4B2uA1B8A2BaA1Bj",
    "A2B1AgB1nA2B2tAeB1iA4B1A2B1A2B1aAiBsA4BbA5BoA1B7A7B23A1B3lA2BaA1BjA1B8A2B2A2BmA1B7A1B1A3B4",
    "A2B9A2B2A2B4A8B1A4B2A1B5A2BcAaB1A1B1A2B3A1B6A4B2A2BmA1B7A1B2A1B2A1B2A2B1A1B5A4B2A2B3A3B1A7",
    "B4A1B1A7BgAbB3A1B9A1B3A1BmA1B7A1B2A1B5A2BaA1B3A1B3A2B1AfB4A2BaA9B7A1B3A1B8A2B2A2BmA1B7A1B2",
    "A1B5A2B9A2B2A2B3A7B3A4B2A1B5A2BaA1B1AgB2A1B6A3B3A1B4A3B2A1B1A1B2A3B2A3B3A3BcA4B5A3B3A1B4A2",
    "B1A6B1AeBaAgBdA1B3A1BnA1BgA2B9A1B3A1B4A7B2A1B3A1B2A2B4A2BaAgB4A1B8A1B3A1BnA1BaA1B5A2B9A1B3",
    "A1B4A7B2A5B3A1B4A2BaA1B3AcBdA1B3A1B1fA1B3A1B5A5B4A7B5A2BaAaB6A1B3A1BiA3BoA1B9A1B1A2B7A3B1A",
    "4B6A1B1A1B8A6BaA2B2AdB1mA5BfA1BaA13B2A1B1A1B5A1BoA1B1A1BnA2B5A1B1A1B7A1BaA2B4AwB1AnB2A6BaA",
    "bB1A1B1A1B1A4BaA1B10A4BkA1BiA1B10A9B1A1lB22A6B26A2B12A1B1A5B1A2B17A1B99A1B4A2B7A1B1A1B4A2B",
    "15A1B4A2BxA1B4A2B7A1B1A1B4A2BfA1B1lA1B4A2B1vA2B3A9B9AeBgAgB2eA2B6A3Bh8A2BhA1BqA5B23A3BbA7B",
    "mA9BmAbBkAcBdA1B3A1B2AcB2cA3B1A4B2A2BaAxB3A1BbA6B2hA7B17A5B1yAaBvA1BcA4BcAaB14A2B5AbB18A4B",
    "qA6BbA11BsA4B1rA1BtA2BbA6BaAdB1A8BeA1BvA2BcAkB25A3BaAhB9AcB38AcB1kA8BaA3B1dA2BbA5B17A2B3Ag",
    "B3A1B13A5BeuA2B6A2B12A2B6A2B8A1B1A1B1A1B1A1BvA2B1hA1B7A1B1A3B3A1B7A3B4A2B6A4BdA5B3A1B7AfB2",
    "A1dB2AjB1AsB1AdB1AgBdA1fBdA4B1A3BcAhB1A4B1A2BaA1B1A2B6A6B1A1B1A1B1A1BgA2B4A5B5A4B1AhB15A22",
    "fB6dA6B9AcB12A1B1A5B1A2B1kA7B1AfBoA9B7A1B7A1B7A1B7A1B7A1B7A1B7A1B7A1BwAedB3ApBfA1B5A2B5A4B",
    "2eA2B7A1B2nA5B17A1B2mAhBwA1cBgAe8B534A1sBh3hA1vB1aA2B7hA3BsAkB1cA4BaA1B37A11B9A2B2vA2B2aAk",
    "B1jA4B1AjB1gAcB1yAaBaA6BoA3B1A1B1dA2B10AcBtA3B1tAeBbA6BvA1B1jA9BeA2BaA6BnA3B21AoB3A2BgA2B5",
    "AaB6A2B6A2B6A9B7A1B7A1B17A1BeA6B3fA1B2A2BaA6B8mcAcBnA4B1dA6isBa6A2B2yA12B7AcB5A5BcA1BdA1B5",
    "A1B1A1B2A1B2A1B30AxBa3AiB1sA2B1iA14BcA4BgAgBgA3B2AoB3AwB5A1B3rAjBaA7BqA4B1A1BqAaB2iA3B6A2B",
    "6A2B6A2B3AzBcA1BqA1BjA1B2A1BfA2BeAyB3fA1xB1hA3sB1A3mBtA3B1dAfB1AvBwAdBuA5B17A5BuA2B10A4B8A",
    "1B5A16B4eA2BaA6B10A4B10A4B14A8B1gAcBbA1BfA1B7A1B2A1BbA1BfA1B7A1B2A3B1gAcB8nA9BmAaB8AoB6A1B",
    "16A1B9A1xB6A2B1A1B18A1B2A3B1A2BnAaBnA9BvA1tBjA1B2AaBmAaBqA6BqA12B1kA6B2A1sB4A1B2A5B8A1B3A1",
    "BtA2B3A4B1AwBtA3BtAzB8A1BuApB1iAaBmAaBjAdBiA32B21A1jB1fAdB1fAdB14A8BaA6B12A3B5A1BnA6yB16A1",
    "B2A3B2AgB6A1eBzAaB1A8BxAvBmA16BlArBnA9B1zAvBgA9B1oA7B1AdBpA7BaA6B1hA1BaA4B4A8B10A2B1A9B1xA",
    "4B4A1BdA1B1AzBiA1B11A6B4A1qB7A1B1A1B4A1BfA1BaA7B1nA5BaA6B4A1B8A2B2A2BmA1B7A1B2A1B5A1BaA2B2",
    "A2B3A2B1A6B1A5B7A2B7A3B5AbBaA1B1A2B1A1B12A1BaA1B1A2B1A1B4A1B8AdB2AtB23A5BaA4B4AuB1yA1B1A8B",
    "aA4mB1iA2B9AnB6AyB1tA3B1AbBaA12B1lA7BaA6BkAsBrA2BfA4BaA6B7A55B1nA2tB22AlB8A2B1A2B8A1B2A1Bu",
    "A1B2A2B9AcBaA1yB8A2B1aA2B8A1B2ArB1rA8B1A8B22A3B1AiB21A2vB8A2gBxAfBaA6B9A1B19A1B9AfBaAoBuA2",
    "BmA1BeA21B7A1B2A1B18A3B1A1B2A1B9A8BaA6B6A1B2A1B11A1B2A1B6A7BaA6B18A4BaA6uBnA9BhA1B15A3B5Ad",
    "BbA2dB1A27BpmA2uB33AhB5gA218B2pAfBtsAgBmAaB32zA5Bg7A5a1B1mA1c6BftA7BvA1BaA6B27A1BaA6BuA2B5",
    "AbB1jA9B4AcBaA9BlA5BjAc0B19A3BaA5iB1sAwBpA2BpA18B23A4B1lA7BhA1sB2A1B2AbB7A9B5p2A15BwA2pB37",
    "A6ppB4A1B7A1B2A1B83AfB1AtB3A2B1AeB4A8Bb0A1s4B2zA5BdA3B9A7BaA3B2A381BaAeeB1aA2BnAf2B5A3B6A8",
    "B8A2B7AuB4A44B3AcbB2dA1B1zA1B2A2B1A2B2A2B4A1BcA1B1A1B7A1B1tA1B4A2B8A1B7A1BsA1B4A1B5A1B1A3B",
    "7A1B9gA2BpA1BpA1BvA1BpA1BvA1BpA1BvA1BpA1BvA1BpA1B8A2B1eAe8B1jA4B1eA8B1AeB1AmB5A1BfAuoBvA6B",
    "6A5xB7A1BhA2B7A1B2A1B5A5B1qAxB1A34B19A3BeA2BaA4B1A8xBvAhB1mAd2B16A5yB17A5hBvA1BmA8B2A68B7A",
    "1B4A1B2A1BfA1B5hAbB7A15B24A4BaAx2B4A1BrA1B2A1B1A2B1A1BaA1B4A1B1A1B1A6B1A4B1A1B1A1B1A1B3A1B",
    "2A1B1A2B1A1B1A1B1A1B1A1B1A1B2A1B1A2B4A1B7A1B4A1B4A1B1A1BaA1BhA5B3A1B5A1BhA2lwBaAsmBwyoAwB3",
    "dqA2B4geA2B5rlAfBhaA1wiBf2A15uB3t7A5B6juAf62uB6o"]

def idStartText : String :=
  String.join [
    "A1tBqA6BqA1bB1AaB1A4B1A5BnA1BvA1BcqA4BcAeB5A7B1A1B1A3lB5A1B2A2B4A1B1A6B1A1B3A1B1A1BkA1B2bA",
    "1B3vA8B4mA1B12A2B1A6B15A1zBrA4B4A19B17AzB2A1B2rA1B1AfB2A7B2AaB3A2B1AgB1A1BuAtB2hAbB1AoBxA9",
    "B2A4B1A5BmA4B1A9B1A3B1AnBpA7BbA5BoA1B7AgB16A1mB1iA3B1AiB1A7BaAfBgA4B8A2B2A2BmA1B7A1B1A3B4A",
    "3B1AgB1AdB2A1B3AeB2AaB1A8B6A4B2A2BmA1B7A1B2A1B2A1B2AvB4A1B1AjB3AgB9A1B3A1BmA1B7A1B2A1B5A3B",
    "1AiB1AfB2AnB1AbB8A2B2A2BmA1B7A1B2A1B5A3B1AuB2A1B3AfB1AhB1A1B6A3B3A1B4A3B2A1B1A1B2A3B2A3B3A",
    "3BcAmB1A1gB8A1B3A1BnA1BgA3B1AqB3A1B2A2B2AuB1A4B8A1B3A1BnA1BaA1B5A3B1AuB3A1B2AfB2AhB9A1B3A1",
    "B15A2B1AgB1A5B3A8B3AoB6A5BiA3BoA1B9A1B1A2B7A1mB1cA1B2AcB7A1mB2A1B1A1B5A1BoA1B1A1BaA1B2A9B1",
    "A2B5A1B1AlB4AwB1A1rB8A1B10ArB5A37B17AkB1AgB6A4B4A3B1A3B2A7B3A4BdAcB1AhB12A1B1A5B1A2B17A1B9",
    "9A1B4A2B7A1B1A1B4A2B15A1B4A2BxA1B4A2B7A1B1A1B4A2BfA1B1lA1B4A2B1vA11BgAgB2eA2B6A3Bh8A2BhA1B",
    "qA5B23A3BbA7BiAdBjAeBiAeBdA1B3AfB1gAzB1A4B1A1vB2hA7B15A1B1A5B1yAaBvA1dBuA2B5AbB18A4BqA1iBn",
    "A9B1hA2aB1A2lB1bAhB8A1iBuAdB2AaB18AqB10A15B3AaB10A2BbA5B17A2B3A15B4A1B6A1B2A3B1A5B5cA1sB7q",
    "A2B6A2B12A2B6A2B8A1B1A1B1A1B1A1BvA2B1hA1B7A1B1A3B3A1B7A3B4A2B6A4BdA5B3A1B7A38B1AdB1AgBdA2t",
    "B1A4B1A2BaA1B1A2B6A6B1A1B1A1B1A1BgA2B4A5B5A4B1AhB15A22fB6dA6B4A3B2AcB12A1B1A5B1A2B1kA7B1Ag",
    "BnA9B7A1B7A1B7A1B7A1B7A1B7A1B7A1B7AfaB3ApB9A7B5A2B5A4B2eA4B5A1B2iA1B4A5B17A1B2mAhBwA1cBgAe",
    "8B534A1sBh3hA1vB1aA2B7hA3BgAaB2AkB1bAgBvA2B28A13B9A2B2vA2B2aAkBhA1B3A1B4A1BnAtB1gAeB1eA1qB",
    "6A3B1A1B2AbBsAaBnApBtA7B1bAsB1AgB5A1BaAaB5A1B15AnB3A1B8AkBnA3B1A3B1eA1B1A3B2A2B5A2B1A1B1Ao",
    "B3A2BbA7B3AcB6A2B6A2B6A9B7A1B7A1B17A1BeA6B37AtB8mcAcBnA4B1dA6isBa6A2B2yA12B7AcB5A5B1A1BaA1",
    "BdA1B5A1B1A1B2A1B2A1B30AxBa3AiB1sA2B1iA14BcA38B5A1B3rA10BqA6BqAbB2hA3B6A2B6A2B6A2B3AzBcA1B",
    "qA1BjA1B2A1BfA2BeAyB3fA1xB1hA7fBtA3B1dA1bBwAdBuA5B12AaBuA2B10A4B8A1B5A16B4eAiB10A4B10A4B14",
    "A8B1gAcBbA1BfA1B7A1B2A1BbA1BfA1B7A1B2A3B1gAcB8nA9BmAaB8AoB6A1B16A1B9A1xB6A2B1A1B18A1B2A3B1",
    "A2BnAaBnA9BvA1tBjA1B2AaBmAaBqA6BqA12B1kA6B2A1sB1AfB4A1B3A1BtA16BtA3BtAzB8A1BsArB1iAaBmAaBj",
    "AdBiA32B21A1jB1fAdB1fAdB10A12BsA9BnA6yB16A6B2AgB6A1kBtAaB1A8BmA16BiA1aBlArBnAcB1hA1lB2A2B1",
    "AdB19AwBpAqB10AtB1A2B1A8BzA3B1AcB1cAeB4AlB1A1B1AzBiA1BpAjB2A1rB7A1B1A1B4A1BfA1BaA7B1bA12B8",
    "A2B2A2BmA1B7A1B2A1B5A3B1AiB1AcB5AuBaA1B1A2B1A1B12A1B1ApB1A1B1A18B1hAiB4AkB3AuB1cAkB2A1B1A5",
    "4B1bA15B4A10B1cAkB1A1nB17AdB1A1zBrA11B7A55B18A38B1sAvB8A2B1A2B8A1B2A1BoAfB1A1B1A2mB8A2B13A",
    "gB1A1B1AsB1AaB14A7B1AlB1AbB1aAjB1AiB21A5jBxAvB9A1B11AhB1A1dBuA34B7A1B2A1B12AlB1ApB6A1B2A1B",
    "wAeB1AnB18A78BjAfB1A1BdA1ByA3gB1A27BpmA2uB33AhB5gA218B2pAfBtsAhB6ApB32zA5Bg7A5a1BuA1cyBftA",
    "7BvAhB27AhBuAiB1cAgB4AvBlA5BjAc0B19A5vB1sAwBpA2BpA18B23A5B1A1uBdA1sB2A1B1AeB5A9B5p2A15BwA2",
    "pB37A6ppB4A1B7A1B2A1B83AfB1AtB3A2B1AeB4A8Bb0A1s4B2zA5BdA3B9A7BaA4meB2dA1B1zA1B2A2B1A2B2A2B",
    "4A1BcA1B1A1B7A1B1tA1B4A2B8A1B7A1BsA1B4A1B5A1B1A3B7A1B9gA2BpA1BpA1BvA1BpA1BvA1BpA1BvA1BpA1B",
    "vA1BpA1B8A1f8BvA6B6A79B1qA42B19AaB7AgB1A8xBuAiB18AdgBsA6cBuA2B1A5rBvA1B3A1B2A1B7A2B5A9B2A6",
    "8B7A1B4A1B2A1BfA1B5hA1nB1wA7B1AxgB4A1BrA1B2A1B1A2B1A1BaA1B4A1B1A1B1A6B1A4B1A1B1A1B1A1B3A1B",
    "2A1B1A2B1A1B1A1B1A1B1A1B1A1B2A1B1A2B4A1B7A1B4A1B4A1B1A1BaA1BhA5B3A1B5A1BhA3esBwyoAwB3dqA2B",
    "4geA2B5rlAfBhaA1wiBf2A15uB3t7A5B6ju"]

def ideographicText : String :=
  String.join [
    "A9hiB2ApB9AeB3AqtB534A1sBg74AhkwBa6A2B2yAn4aB1AdB5A9B5p2A15BwA2pB37A70dBb0Af7oBwyoAwB3dqA2",
    "B4geA2B5rlAfBhaA1wiBf2A15uB3t7A5B6ju"]

def joinControlText : String :=
  "A6bwB2"

def logicalOrderExceptionText : String :=
  "A2tcB5A3fB5A25sB3A2B1AsmyB2A2B1A1B2"

def lowercaseText : String :=
  String.join [
    "A2pBqA1bB1AaB1A4B1A10BoA1B8A1B1A1B1A1B1A1B1A1B1A1B1A1B1A1B1A1B1A1B1A1B1A1B1A1B1A1B1A1B1A1B",
    "1A1B1A1B1A1B1A1B1A1B1A1B1A1B1A1B1A1B1A1B1A1B1A1B2A1B1A1B1A1B1A1B1A1B1A1B1A1B1A1B2A1B1A1B1A",
    "1B1A1B1A1B1A1B1A1B1A1B1A1B1A1B1A1B1A1B1A1B1A1B1A1B1A1B1A1B1A1B1A1B1A1B1A1B1A1B1A1B1A2B1A1B",
    "1A1B3A2B1A1B1A2B1A3B2A4B1A2B1A3B3A2B1A2B1A1B1A1B1A2B1A1B2A1B1A2B1A3B1A1B1A2B2A2B3A6B1A2B1A",
    "2B1A1B1A1B1A1B1A1B1A1B1A1B1A1B1A1B2A1B1A1B1A1B1A1B1A1B1A1B1A1B1A1B1A1B2A2B1A1B1A3B1A1B1A1B",
    "1A1B1A1B1A1B1A1B1A1B1A1B1A1B1A1B1A1B1A1B1A1B1A1B1A1B1A1B1A1B1A1B1A1B1A1B1A1B1A1B1A1B1A1B1A",
    "1B1A1B1A1B1A1B1A1B7A2B1A2B2A1B1A4B1A1B1A1B1A1B1A1B1xA2BzA7B2AuB5A2oB1A17B1A1B1A3B1A2B4AiB1",
    "ArBzA1B2A3B3A1B1A1B1A1B1A1B1A1B1A1B1A1B1A1B1A1B1A1B1A1B1A1B5A1B1A2B1A2B2A1fB1cA1B1A1B1A1B1",
    "A1B1A1B1A1B1A1B1A1B1A1B1A1B1A1B1A1B1A1B1A1B1A1B1A1B1A1B1A9B1A1B1A1B1A1B1A1B1A1B1A1B1A1B1A1",
    "B1A1B1A1B1A1B1A1B1A1B1A1B1A1B1A1B1A1B1A1B1A1B1A1B1A1B1A1B1A1B1A1B1A1B1A1B1A2B1A1B1A1B1A1B1",
    "A1B1A1B1A1B2A1B1A1B1A1B1A1B1A1B1A1B1A1B1A1B1A1B1A1B1A1B1A1B1A1B1A1B1A1B1A1B1A1B1A1B1A1B1A1",
    "B1A1B1A1B1A1B1A1B1A1B1A1B1A1B1A1B1A1B1A1B1A1B1A1B1A1B1A1B1A1B1A1B1A1B1A1B1A1B1A1B1A1B1A1B1",
    "A1B1A1B1A1B1A1B1A1B1A1B1A1cB15A287B17A1B4Al4B6A1oiB9A1B1A39B5cA1tB1A1B1A1B1A1B1A1B1A1B1A1B",
    "1A1B1A1B1A1B1A1B1A1B1A1B1A1B1A1B1A1B1A1B1A1B1A1B1A1B1A1B1A1B1A1B1A1B1A1B1A1B1A1B1A1B1A1B1A",
    "1B1A1B1A1B1A1B1A1B1A1B1A1B1A1B1A1B1A1B1A1B1A1B1A1B1A1B1A1B1A1B1A1B1A1B1A1B1A1B1A1B1A1B1A1B",
    "1A1B1A1B1A1B1A1B1A1B1A1B1A1B1A1B1A1B1A1B1A1B1A1B1A1B1A1B1A1B1A1B1A1B1A1B1A1B1A1B1A1B1A1B1A",
    "1B9A1B1A1B1A1B1A1B1A1B1A1B1A1B1A1B1A1B1A1B1A1B1A1B1A1B1A1B1A1B1A1B1A1B1A1B1A1B1A1B1A1B1A1B",
    "1A1B1A1B1A1B1A1B1A1B1A1B1A1B1A1B1A1B1A1B1A1B1A1B1A1B1A1B1A1B1A1B1A1B1A1B1A1B1A1B1A1B1A1B1A",
    "1B1A1B1A1B1A1B1A1B9A8B6AaB8A8B8A8B6AaB8A8B8A8BeA2B8A8B8A8B8A8B5A1B2A6B1A3B3A1B2A8B4A2B2A8B",
    "8AaB3A1B2A3dB1AdB1AgBdA31B1A3B2A3B1ArB1A4B1A4B1A2B2A8B4A4B1AxBgA4B1AnfBqA1fqB1cA1B1A3B2A1B",
    "1A1B1A1B1A4B1A1B2A1B8A3B1A1B1A1B1A1B1A1B1A1B1A1B1A1B1A1B1A1B1A1B1A1B1A1B1A1B1A1B1A1B1A1B1A",
    "1B1A1B1A1B1A1B1A1B1A1B1A1B1A1B1A1B1A1B1A1B1A1B1A1B1A1B1A1B1A1B1A1B1A1B1A1B1A1B1A1B1A1B1A1B",
    "1A1B1A1B1A1B1A1B1A1B1A1B1A1B1A1B1A1B1A1B2A7B1A1B1A4B1AcB12A1B1A5B1AnwzB1A1B1A1B1A1B1A1B1A1",
    "B1A1B1A1B1A1B1A1B1A1B1A1B1A1B1A1B1A1B1A1B1A1B1A1B1A1B1A1B1A1B1A1B1A1B1AjB1A1B1A1B1A1B1A1B1",
    "A1B1A1B1A1B1A1B1A1B1A1B1A1B1A1B1A1B3A3pB1A1B1A1B1A1B1A1B1A1B1A1B3A1B1A1B1A1B1A1B1A1B1A1B1A",
    "1B1A1B1A1B1A1B1A1B1A1B1A1B1A1B1A1B1A1B1A1B1A1B1A1B1A1B1A1B1A1B1A1B1A1B1A1B1A1B1A1B1A1B1A1B",
    "1A1B1A1BaA1B1A1B1A2B1A1B1A1B1A1B1A1B1A4B1A1B1A2B1A1B3A1B1A1B1A1B1A1B1A1B1A1B1A1B1A1B1A1B1A",
    "1B1A5B1A5B1A1B1A1B1A1B1A1B1A1B1A1B1A1B1A4B1A1B1A2B1A1B1A1B1A1B1A1B1A1B1A1B1A1B1AlB4A1B1A1B",
    "3AmtB17A1BeA6B28AfnkB7AcB5AtlBqAy5B14A3sB10A4bBbA1BfA1B7A1B2AcjB1A2B3A1B16A1B9AzpB1fA3hBmA",
    "27uBwAgw0BwA1nBpAk06BqAqB7A1BiAqBqAqB4A1B1A1B7A1BbAqBqAqBqAqBqAqBqAqBqAqBqAqBqAqBqAqBsAsBp",
    "A1B6AqBpA1B6AqBpA1B6AqBpA1B6AqBpA1B6A1B1A1f8BaA1BkA6B6A79B1qA1pwBy"]

def mathText : String :=
  String.join [
    "A17B1AgB3AvB1AtB1A1B1A19B1A4B1A11B1AvB1Ak8B3A2B1AqB2A2B3AenB3A559B1ArB3AbB1A3B1AdB1AeB4AlB",
    "5AbB5A1tBdA4B1A3B2A4B5AiB1A4B1A2BaA1B1A2B6A6B1A3B2A2B2A1B3A1B6A3BeA1B1A1wBoA1B6A1B2A4B2A4B",
    "wA1B1A6B2AeB7gA8B4AkB2A2iB1AuBrA1B1AoB1AbB7AcdB2AcBaA4B6A4B2A2B2A3B5AeB1A1B1A2B6AbB8A5B2A1",
    "lB1A1B1AtB4A9B3A9cB1sA74Be8A1cBlA2B6A1524B1AmvB6A1B1A4iB1AgB3AtB1A1B1AtB1A1B1A3nB1A6B4A2ox",
    "B2A1274B1AzzB2dA1B1zA1B2A2B1A2B2A2B4A1BcA1B1A1B7A1B1tA1B4A2B8A1B7A1BsA1B4A1B5A1B1A3B7A1B9g",
    "A2B84A2B1eA4cgB4A1BrA1B2A1B1A2B1A1BaA1B4A1B1A1B1A6B1A4B1A1B1A1B1A1B3A1B2A1B1A2B1A1B1A1B1A1",
    "B1A1B1A1B2A1B1A2B4A1B7A1B4A1B4A1B1A1BaA1BhA5B3A1B5A1BhA1gB2A1y6B9"]

def noncharacterCodePointText : String :=
  String.join [
    "A1e4wBwAemB2A1ekeB2A1ekeB2A1ekeB2A1ekeB2A1ekeB2A1ekeB2A1ekeB2A1ekeB2A1ekeB2A1ekeB2A1ekeB2A",
    "1ekeB2A1ekeB2A1ekeB2A1ekeB2A1ekeB2"]

def patternSyntaxText : String :=
  String.join [
    "AxBfAaB7AqB4A1B1AqB4AyB7A1B1A1B2A1B1A1B2A4B1A4B1A3B1AnB1AvB1A654BoA8BfA2BjA1BaA8hBk0A4gBhi",
    "AuBvgAe8B3kAapB3A4BpAfB1A14i5B2A79B2"]

def patternWhiteSpaceText : String :=
  "A9B5AiB1A2sB1A688B2AoB2"

def quotationMarkText : String :=
  "AyB1A4B1A3nB1AfB1A670B8ApB2A2rrB1AcpB4AdB3A14ptB4A59B1A4B1A2iB2"

def radicalText : String :=
  "A96oBqA1B2hAcB5y"

def regionalIndicatorText : String :=
  "A2qcmBq"

def sentenceTerminalText : String :=
  String.join [
    "AxB1AcB1AgB1A11lB1A43B3A50B1A17B3A6uB1A1pB1A1B1A3B2A85B2A1d0B2AlyB1A4B2AlhB1A5iB2A4dB2A19B",
    "1A5B1A8qB2A9uB4A4iB2AaB2A2B2AtB3A57B2A1tB2ApwB1AnB2A9B3A2i7B3A8iB1AdB1AmB2AbxB1An3wB1A7iB2",
    "A6bB1A3B1AamB2A2eB2A2nB1A48B2A43B3A40B2A6xB1Ag86B1A2B2A1nB1A3B2A4pB1AcB1AgB1A1tB1A25wB2Azh",
    "B5A18B4A59B2A39B4A3jB3A3lB2A6B1AgB2A2gB2A1B2A30B1A8aB2A39B2AadB2A5BfA2xB2A6xB3AedB1A1B1A6z",
    "B2A2fB2AboB2Aj8B2A22B2AeuhB2A3pB1A1tB2AbB1AfdB2A88B1AfeuB1A5woB1"]

def softDottedText : String :=
  String.join [
    "A2xB2A5gB1A7tB1AuB1A1gB1AkB1A8wB1A2qB1A1B1A4y1B1A1fB1AdB1A3B1A3oB1A4dB1AbpB1A5yB2A27mB1A2b",
    "olB2A1eB2A1eB2A1eB2A1eB2A1eB2A1eB2A1eB2A1eB2A1eB2A1eB2A1eB2A1eB2A1omB1A8hB2AqB1"]

def terminalPunctuationText : String :=
  String.join [
    "AxB1AaB1A1B1AbB2A3B1An2B1A8B1Ae9B1A1lB1A20B1AeB1A1B3A50B1A17BbA1B1A6jB2A1iB6A1B8AvB1A79B2A",
    "z8B2A4sB1A4B6A8nB2AlxB8AlhB1A3gB3A1zB2A4dB3A3B1A13B4A2B2A8qB2A9uB4A4iB2AaB2A1B3AtB3A57B5A1",
    "qB2ApwB1AnB2A9B3A2i7B3A8iB1AdB1A4B1AaB1A1B2A3B2AbwB2An3vB2A7hB3A6bB5AamB2A2eB2A2nB1A47B3A4",
    "3B3A3jB1AgB2A6xB1Ag86B1A2B2A1lB3A1B4A4pB1AaB1A1B1AbB2A3B1A1tB1A2B1Au2B1A1cB1Aw6B1A5jB1A8mB",
    "2A48B6A1wB6A2hB4AqgB5A18B4A59B7A34B4A3jB3A3lB2A6B1AgB2A2gB5A30B1A8aB2A39B3AcB2A9yB4A3BfA2x",
    "B2A6xB3AedB1A1B1A6zB2A2fB2A4B2AbiB3A19B1AhxB2A22B2A10rB5AdtlB2A3pB1A1tB3AaB1AfdB2A87B2Afeu",
    "B1A5wnB4"]

def unifiedIdeographText : String :=
  String.join [
    "Aa9sB534A1sBg74AhseB2A1B1A1B2AaB1A1B1A1B2A2B3A1fpyBwyoAwB3dqA2B4geA2B5rlAfBhaA3heB3t7A5B6j",
    "u"]

def uppercaseText : String :=
  String.join [
    "A1tBqA2tBnA1B7AxB1A1B1A1B1A1B1A1B1A1B1A1B1A1B1A1B1A1B1A1B1A1B1A1B1A1B1A1B1A1B1A1B1A1B1A1B1",
    "A1B1A1B1A1B1A1B1A1B1A1B1A1B1A1B1A1B1A2B1A1B1A1B1A1B1A1B1A1B1A1B1A1B1A2B1A1B1A1B1A1B1A1B1A1",
    "B1A1B1A1B1A1B1A1B1A1B1A1B1A1B1A1B1A1B1A1B1A1B1A1B1A1B1A1B1A1B1A1B1A1B1A1B2A1B1A1B1A3B2A1B1",
    "A1B2A1B3A2B4A1B2A1B3A3B2A1B2A1B1A1B1A1B2A1B1A2B1A1B2A1B3A1B1A1B2A3B1A7B1A2B1A2B1A2B1A1B1A1",
    "B1A1B1A1B1A1B1A1B1A1B1A2B1A1B1A1B1A1B1A1B1A1B1A1B1A1B1A1B1A2B1A2B1A1B3A1B1A1B1A1B1A1B1A1B1",
    "A1B1A1B1A1B1A1B1A1B1A1B1A1B1A1B1A1B1A1B1A1B1A1B1A1B1A1B1A1B1A1B1A1B1A1B1A1B1A1B1A1B1A1B1A1",
    "B1A1B1A7B2A1B2A2B1A1B4A1B1A1B1A1B1A1B1A81B1A1B1A3B1A8B1A6B1A1B3A1B1A1B2A1BhA1B9AzB1A2B3A3B",
    "1A1B1A1B1A1B1A1B1A1B1A1B1A1B1A1B1A1B1A1B1A1B1A5B1A2B1A1B2A2B1fA1cB1A1B1A1B1A1B1A1B1A1B1A1B",
    "1A1B1A1B1A1B1A1B1A1B1A1B1A1B1A1B1A1B1A1B1A9B1A1B1A1B1A1B1A1B1A1B1A1B1A1B1A1B1A1B1A1B1A1B1A",
    "1B1A1B1A1B1A1B1A1B1A1B1A1B1A1B1A1B1A1B1A1B1A1B1A1B1A1B1A1B1A1B2A1B1A1B1A1B1A1B1A1B1A1B1A2B",
    "1A1B1A1B1A1B1A1B1A1B1A1B1A1B1A1B1A1B1A1B1A1B1A1B1A1B1A1B1A1B1A1B1A1B1A1B1A1B1A1B1A1B1A1B1A",
    "1B1A1B1A1B1A1B1A1B1A1B1A1B1A1B1A1B1A1B1A1B1A1B1A1B1A1B1A1B1A1B1A1B1A1B1A1B1A1B1A1B1A1B1A1B",
    "1A1B1A1B1A2B12A289B12A1B1A5B1Ak2B2eA1ozB1A6B17A2B3A8wB1A1B1A1B1A1B1A1B1A1B1A1B1A1B1A1B1A1B",
    "1A1B1A1B1A1B1A1B1A1B1A1B1A1B1A1B1A1B1A1B1A1B1A1B1A1B1A1B1A1B1A1B1A1B1A1B1A1B1A1B1A1B1A1B1A",
    "1B1A1B1A1B1A1B1A1B1A1B1A1B1A1B1A1B1A1B1A1B1A1B1A1B1A1B1A1B1A1B1A1B1A1B1A1B1A1B1A1B1A1B1A1B",
    "1A1B1A1B1A1B1A1B1A1B1A1B1A1B1A1B1A1B1A1B1A1B1A1B1A1B1A1B1A1B1A1B1A1B1A1B1A1B1A1B1A9B1A1B1A",
    "1B1A1B1A1B1A1B1A1B1A1B1A1B1A1B1A1B1A1B1A1B1A1B1A1B1A1B1A1B1A1B1A1B1A1B1A1B1A1B1A1B1A1B1A1B",
    "1A1B1A1B1A1B1A1B1A1B1A1B1A1B1A1B1A1B1A1B1A1B1A1B1A1B1A1B1A1B1A1B1A1B1A1B1A1B1A1B1A1B1A1B1A",
    "1B1A1B1A9B8A8B6AaB8A8B8A8B6AbB1A1B1A1B1A1B1A8B8A20B4AcB4AcB4AcB5AbB4A7aB1A4B1A3B3A2B3A2B1A",
    "3B5A6B1A1B1A1B1A1B4A2B4AaB2A5B1AqBgAjB1AmqBqA1f4B1cA1cB1A1B3A2B1A1B1A1B1A1B4A1B1A2B1A8B3A1",
    "B1A1B1A1B1A1B1A1B1A1B1A1B1A1B1A1B1A1B1A1B1A1B1A1B1A1B1A1B1A1B1A1B1A1B1A1B1A1B1A1B1A1B1A1B1",
    "A1B1A1B1A1B1A1B1A1B1A1B1A1B1A1B1A1B1A1B1A1B1A1B1A1B1A1B1A1B1A1B1A1B1A1B1A1B1A1B1A1B1A1B1A1",
    "B1A1B1A1B1A1B1A8B1A1B1A4B1AnylB1A1B1A1B1A1B1A1B1A1B1A1B1A1B1A1B1A1B1A1B1A1B1A1B1A1B1A1B1A1",
    "B1A1B1A1B1A1B1A1B1A1B1A1B1A1B1AjB1A1B1A1B1A1B1A1B1A1B1A1B1A1B1A1B1A1B1A1B1A1B1A1B1A1B1A3rB",
    "1A1B1A1B1A1B1A1B1A1B1A1B1A3B1A1B1A1B1A1B1A1B1A1B1A1B1A1B1A1B1A1B1A1B1A1B1A1B1A1B1A1B1A1B1A",
    "1B1A1B1A1B1A1B1A1B1A1B1A1B1A1B1A1B1A1B1A1B1A1B1A1B1A1B1A1B1AaB1A1B1A1B2A1B1A1B1A1B1A1B1A4B",
    "1A1B1A2B1A1B1A3B1A1B1A1B1A1B1A1B1A1B1A1B1A1B1A1B1A1B1A1B5A1B5A1B1A1B1A1B1A1B1A1B1A1B1A1B1A",
    "1B4A1B1A1B2A1B1A1B1A1B1A1B1A1B1A1B1A1B1A1B1AoB1Ah7vBqAxxB14A3sB10A4cBbA1BfA1B7A1B2A1d6B1fA",
    "4dBmA27uBwAgw0BwA1sBpAk07BqAqBqAqBqAqB1A1B2A2B1A2B2A2B4A1B8AqBqAqB2A1B4A2B8A1B7ArB2A1B4A1B",
    "5A1B1A3B7ArBqAqBqAqBqAqBqAqBqAqBqAuBpAxBpAxBpAxBpAxBpAxB1A3edByA1laBqA6BqA6Bq"]

def variationSelectorText : String :=
  "A4qzB3A1B1A19f4BgAi9yoB6o"

def whiteSpaceText : String :=
  "A9B5AiB1A2sB1AqB1A4bjB1A1vjBbAtB2A5B1A1bB1A334B1"

def xidContinueText : String :=
  String.join [
    "A1cBaA7BqA4B1A1BqA1bB1AaB1A1B1A2B1A5BnA1BvA1BcqA4BcAeB5A7B1A1B1AhB39A1B2A3B3A1B1A6B5A1B1A1",
    "BkA1B2bA1B3vA1B5A2B4mA1B12A2B1A6B15A8B19A1B1A1B2A1B2A1B1A8BrA4B4AtBbA5B22A4B2uA1B8A2BaA1Bj",
    "A2B1AgB1nA2B2tAeB1iA4B1A2B1A2B1aAiBsA4BbA5BoA1B7A7B23A1B3lA2BaA1BjA1B8A2B2A2BmA1B7A1B1A3B4",
    "A2B9A2B2A2B4A8B1A4B2A1B5A2BcAaB1A1B1A2B3A1B6A4B2A2BmA1B7A1B2A1B2A1B2A2B1A1B5A4B2A2B3A3B1A7",
    "B4A1B1A7BgAbB3A1B9A1B3A1BmA1B7A1B2A1B5A2BaA1B3A1B3A2B1AfB4A2BaA9B7A1B3A1B8A2B2A2BmA1B7A1B2",
    "A1B5A2B9A2B2A2B3A7B3A4B2A1B5A2BaA1B1AgB2A1B6A3B3A1B4A3B2A1B1A1B2A3B2A3B3A3BcA4B5A3B3A1B4A2",
    "B1A6B1AeBaAgBdA1B3A1BnA1BgA2B9A1B3A1B4A7B2A1B3A1B2A2B4A2BaAgB4A1B8A1B3A1BnA1BaA1B5A2B9A1B3",
    "A1B4A7B2A5B3A1B4A2BaA1B3AcBdA1B3A1B1fA1B3A1B5A5B4A7B5A2BaAaB6A1B3A1BiA3BoA1B9A1B1A2B7A3B1A",
    "4B6A1B1A1B8A6BaA2B2AdB1mA5BfA1BaA13B2A1B1A1B5A1BoA1B1A1BnA2B5A1B1A1B7A1BaA2B4AwB1AnB2A6BaA",
    "bB1A1B1A1B1A4BaA1B10A4BkA1BiA1B10A9B1A1lB22A6B26A2B12A1B1A5B1A2B17A1B99A1B4A2B7A1B1A1B4A2B",
    "15A1B4A2BxA1B4A2B7A1B1A1B4A2BfA1B1lA1B4A2B1vA2B3A9B9AeBgAgB2eA2B6A3Bh8A2BhA1BqA5B23A3BbA7B",
    "mA9BmAbBkAcBdA1B3A1B2AcB2cA3B1A4B2A2BaAxB3A1BbA6B2hA7B17A5B1yAaBvA1BcA4BcAaB14A2B5AbB18A4B",
    "qA6BbA11BsA4B1rA1BtA2BbA6BaAdB1A8BeA1BvA2BcAkB25A3BaAhB9AcB38AcB1kA8BaA3B1dA2BbA5B17A2B3Ag",
    "B3A1B13A5BeuA2B6A2B12A2B6A2B8A1B1A1B1A1B1A1BvA2B1hA1B7A1B1A3B3A1B7A3B4A2B6A4BdA5B3A1B7AfB2",
    "A1dB2AjB1AsB1AdB1AgBdA1fBdA4B1A3BcAhB1A4B1A2BaA1B1A2B6A6B1A1B1A1B1A1BgA2B4A5B5A4B1AhB15A22",
    "fB6dA6B9AcB12A1B1A5B1A2B1kA7B1AfBoA9B7A1B7A1B7A1B7A1B7A1B7A1B7A1B7A1BwAedB3ApBfA1B5A2B5A4B",
    "2eA2B2A2B3A1B2nA5B17A1B2mAhBwA1cBgAe8B534A1sBh3hA1vB1aA2B7hA3BsAkB1cA4BaA1B37A11B9A2B2vA2B",
    "2aAkB1jA4B1AjB1gAcB1yAaBaA6BoA3B1A1B1dA2B10AcBtA3B1tAeBbA6BvA1B1jA9BeA2BaA6BnA3B21AoB3A2Bg",
    "A2B5AaB6A2B6A2B6A9B7A1B7A1B17A1BeA6B3fA1B2A2BaA6B8mcAcBnA4B1dA6isBa6A2B2yA12B7AcB5A5BcA1Bd",
    "A1B5A1B1A1B2A1B2A1B30AxB3vA6B62AiB1sA2B1iA14BaA6BgAgBgA3B2AoB3AxB1A1B1A3B1A1B1A1B1A1B1A1B3",
    "iAjBaA7BqA4B1A1BqAaB2iA3B6A2B6A2B6A2B3AzBcA1BqA1BjA1B2A1BfA2BeAyB3fA1xB1hA3sB1A3mBtA3B1dAf",
    "B1AvBwAdBuA5B17A5BuA2B10A4B8A1B5A16B4eA2BaA6B10A4B10A4B14A8B1gAcBbA1BfA1B7A1B2A1BbA1BfA1B7",
    "A1B2A3B1gAcB8nA9BmAaB8AoB6A1B16A1B9A1xB6A2B1A1B18A1B2A3B1A2BnAaBnA9BvA1tBjA1B2AaBmAaBqA6Bq",
    "A12B1kA6B2A1sB4A1B2A5B8A1B3A1BtA2B3A4B1AwBtA3BtAzB8A1BuApB1iAaBmAaBjAdBiA32B21A1jB1fAdB1fA",
    "dB14A8BaA6B12A3B5A1BnA6yB16A1B2A3B2AgB6A1eBzAaB1A8BxAvBmA16BlArBnA9B1zAvBgA9B1oA7B1AdBpA7B",
    "aA6B1hA1BaA4B4A8B10A2B1A9B1xA4B4A1BdA1B1AzBiA1B11A6B4A1qB7A1B1A1B4A1BfA1BaA7B1nA5BaA6B4A1B",
    "8A2B2A2BmA1B7A1B2A1B5A1BaA2B2A2B3A2B1A6B1A5B7A2B7A3B5AbBaA1B1A2B1A1B12A1BaA1B1A2B1A1B4A1B8",
    "AdB2AtB23A5BaA4B4AuB1yA1B1A8BaA4mB1iA2B9AnB6AyB1tA3B1AbBaA12B1lA7BaA6BkAsBrA2BfA4BaA6B7A55",
    "B1nA2tB22AlB8A2B1A2B8A1B2A1BuA1B2A2B9AcBaA1yB8A2B1aA2B8A1B2ArB1rA8B1A8B22A3B1AiB21A2vB8A2g",
    "BxAfBaA6B9A1B19A1B9AfBaAoBuA2BmA1BeA21B7A1B2A1B18A3B1A1B2A1B9A8BaA6B6A1B2A1B11A1B2A1B6A7Ba",
    "A6B18A4BaA6uBnA9BhA1B15A3B5AdBbA2dB1A27BpmA2uB33AhB5gA218B2pAfBtsAgBmAaB32zA5Bg7A5a1B1mA1c",
    "6BftA7BvA1BaA6B27A1BaA6BuA2B5AbB1jA9B4AcBaA9BlA5BjAc0B19A3BaA5iB1sAwBpA2BpA18B23A4B1lA7BhA",
    "1sB2A1B2AbB7A9B5p2A15BwA2pB37A6ppB4A1B7A1B2A1B83AfB1AtB3A2B1AeB4A8Bb0A1s4B2zA5BdA3B9A7BaA3",
    "B2A381BaAeeB1aA2BnAf2B5A3B6A8B8A2B7AuB4A44B3AcbB2dA1B1zA1B2A2B1A2B2A2B4A1BcA1B1A1B7A1B1tA1",
    "B4A2B8A1B7A1BsA1B4A1B5A1B1A3B7A1B9gA2BpA1BpA1BvA1BpA1BvA1BpA1BvA1BpA1BvA1BpA1B8A2B1eAe8B1j",
    "A4B1eA8B1AeB1AmB5A1BfAuoBvA6B6A5xB7A1BhA2B7A1B2A1B5A5B1qAxB1A34B19A3BeA2BaA4B1A8xBvAhB1mAd",
    "2B16A5yB17A5hBvA1BmA8B2A68B7A1B4A1B2A1BfA1B5hAbB7A15B24A4BaAx2B4A1BrA1B2A1B1A2B1A1BaA1B4A1",
    "B1A1B1A6B1A4B1A1B1A1B1A1B3A1B2A1B1A2B1A1B1A1B1A1B1A1B1A1B2A1B1A2B4A1B7A1B4A1B4A1B1A1BaA1Bh",
    "A5B3A1B5A1BhA2lwBaAsmBwyoAwB3dqA2B4geA2B5rlAfBhaA1wiBf2A15uB3t7A5B6juAf62uB6o"]

def xidStartText : String :=
  String.join [
    "A1tBqA6BqA1bB1AaB1A4B1A5BnA1BvA1BcqA4BcAeB5A7B1A1B1A3lB5A1B2A3B3A1B1A6B1A1B3A1B1A1BkA1B2bA",
    "1B3vA8B4mA1B12A2B1A6B15A1zBrA4B4A19B17AzB2A1B2rA1B1AfB2A7B2AaB3A2B1AgB1A1BuAtB2hAbB1AoBxA9",
    "B2A4B1A5BmA4B1A9B1A3B1AnBpA7BbA5BoA1B7AgB16A1mB1iA3B1AiB1A7BaAfBgA4B8A2B2A2BmA1B7A1B1A3B4A",
    "3B1AgB1AdB2A1B3AeB2AaB1A8B6A4B2A2BmA1B7A1B2A1B2A1B2AvB4A1B1AjB3AgB9A1B3A1BmA1B7A1B2A1B5A3B",
    "1AiB1AfB2AnB1AbB8A2B2A2BmA1B7A1B2A1B5A3B1AuB2A1B3AfB1AhB1A1B6A3B3A1B4A3B2A1B1A1B2A3B2A3B3A",
    "3BcAmB1A1gB8A1B3A1BnA1BgA3B1AqB3A1B2A2B2AuB1A4B8A1B3A1BnA1BaA1B5A3B1AuB3A1B2AfB2AhB9A1B3A1",
    "B15A2B1AgB1A5B3A8B3AoB6A5BiA3BoA1B9A1B1A2B7A1mB1cA1B1AdB7A1mB2A1B1A1B5A1BoA1B1A1BaA1B1AaB1",
    "A2B5A1B1AlB4AwB1A1rB8A1B10ArB5A37B17AkB1AgB6A4B4A3B1A3B2A7B3A4BdAcB1AhB12A1B1A5B1A2B17A1B9",
    "9A1B4A2B7A1B1A1B4A2B15A1B4A2BxA1B4A2B7A1B1A1B4A2BfA1B1lA1B4A2B1vA11BgAgB2eA2B6A3Bh8A2BhA1B",
    "qA5B23A3BbA7BiAdBjAeBiAeBdA1B3AfB1gAzB1A4B1A1vB2hA7B15A1B1A5B1yAaBvA1dBuA2B5AbB18A4BqA1iBn",
    "A9B1hA2aB1A2lB1bAhB8A1iBuAdB2AaB18AqB10A15B3AaB10A2BbA5B17A2B3A15B4A1B6A1B2A3B1A5B5cA1sB7q",
    "A2B6A2B12A2B6A2B8A1B1A1B1A1B1A1BvA2B1hA1B7A1B1A3B3A1B7A3B4A2B6A4BdA5B3A1B7A38B1AdB1AgBdA2t",
    "B1A4B1A2BaA1B1A2B6A6B1A1B1A1B1A1BgA2B4A5B5A4B1AhB15A22fB6dA6B4A3B2AcB12A1B1A5B1A2B1kA7B1Ag",
    "BnA9B7A1B7A1B7A1B7A1B7A1B7A1B7A1B7AfaB3ApB9A7B5A2B5A4B2eA6B3A1B2iA1B4A5B17A1B2mAhBwA1cBgAe",
    "8B534A1sBh3hA1vB1aA2B7hA3BgAaB2AkB1bAgBvA2B28A13B9A2B2vA2B2aAkBhA1B3A1B4A1BnAtB1gAeB1eA1qB",
    "6A3B1A1B2AbBsAaBnApBtA7B1bAsB1AgB5A1BaAaB5A1B15AnB3A1B8AkBnA3B1A3B1eA1B1A3B2A2B5A2B1A1B1Ao",
    "B3A2BbA7B3AcB6A2B6A2B6A9B7A1B7A1B17A1BeA6B37AtB8mcAcBnA4B1dA6isBa6A2B2yA12B7AcB5A5B1A1BaA1",
    "BdA1B5A1B1A1B2A1B2A1B30AxB3vA6B62AiB1sA2B1iA14BaA3bB1A1B1A3B1A1B1A1B1A1B1A1B3iA10BqA6BqAbB",
    "1kA2BvA3B6A2B6A2B6A2B3AzBcA1BqA1BjA1B2A1BfA2BeAyB3fA1xB1hA7fBtA3B1dA1bBwAdBuA5B12AaBuA2B10",
    "A4B8A1B5A16B4eAiB10A4B10A4B14A8B1gAcBbA1BfA1B7A1B2A1BbA1BfA1B7A1B2A3B1gAcB8nA9BmAaB8AoB6A1",
    "B16A1B9A1xB6A2B1A1B18A1B2A3B1A2BnAaBnA9BvA1tBjA1B2AaBmAaBqA6BqA12B1kA6B2A1sB1AfB4A1B3A1BtA",
    "16BtA3BtAzB8A1BsArB1iAaBmAaBjAdBiA32B21A1jB1fAdB1fAdB10A12BsA9BnA6yB16A6B2AgB6A1kBtAaB1A8B",
    "mA16BiA1aBlArBnAcB1hA1lB2A2B1AdB19AwBpAqB10AtB1A2B1A8BzA3B1AcB1cAeB4AlB1A1B1AzBiA1BpAjB2A1",
    "rB7A1B1A1B4A1BfA1BaA7B1bA12B8A2B2A2BmA1B7A1B2A1B5A3B1AiB1AcB5AuBaA1B1A2B1A1B12A1B1ApB1A1B1",
    "A18B1hAiB4AkB3AuB1cAkB2A1B1A54B1bA15B4A10B1cAkB1A1nB17AdB1A1zBrA11B7A55B18A38B1sAvB8A2B1A2",
    "B8A1B2A1BoAfB1A1B1A2mB8A2B13AgB1A1B1AsB1AaB14A7B1AlB1AbB1aAjB1AiB21A5jBxAvB9A1B11AhB1A1dBu",
    "A34B7A1B2A1B12AlB1ApB6A1B2A1BwAeB1AnB18A78BjAfB1A1BdA1ByA3gB1A27BpmA2uB33AhB5gA218B2pAfBts",
    "AhB6ApB32zA5Bg7A5a1BuA1cyBftA7BvAhB27AhBuAiB1cAgB4AvBlA5BjAc0B19A5vB1sAwBpA2BpA18B23A5B1A1",
    "uBdA1sB2A1B1AeB5A9B5p2A15BwA2pB37A6ppB4A1B7A1B2A1B83AfB1AtB3A2B1AeB4A8Bb0A1s4B2zA5BdA3B9A7",
    "BaA4meB2dA1B1zA1B2A2B1A2B2A2B4A1BcA1B1A1B7A1B1tA1B4A2B8A1B7A1BsA1B4A1B5A1B1A3B7A1B9gA2BpA1",
    "BpA1BvA1BpA1BvA1BpA1BvA1BpA1BvA1BpA1B8A1f8BvA6B6A79B1qA42B19AaB7AgB1A8xBuAiB18AdgBsA6cBuA2",
    "B1A5rBvA1B3A1B2A1B7A2B5A9B2A68B7A1B4A1B2A1BfA1B5hA1nB1wA7B1AxgB4A1BrA1B2A1B1A2B1A1BaA1B4A1",
    "B1A1B1A6B1A4B1A1B1A1B1A1B3A1B2A1B1A2B1A1B1A1B1A1B1A1B1A1B2A1B1A2B4A1B7A1B4A1B4A1B1A1BaA1Bh",
    "A5B3A1B5A1BhA3esBwyoAwB3dqA2B4geA2B5rlAfBhaA1wiBf2A15uB3t7A5B6ju"]

def hyphenText : String :=
  "A19B1A3jB1AykB1A3nfB1A1l5B2A2rpB1AkjB1A14knB1A4pB1A2fB1"

def prependedConcatenationMarkText : String :=
  "A16oB6A5zB1A1dB1AaoB2A28B1A1g4aB1AfB1"

def idCompatMathContinueText : String :=
  "A4yB2A5B1A69iB1A3BbA1BfAabB1A4B1AmB1A2e8yB1ApB1AvB1ApB1AvB1ApB1AvB1ApB1AvB1ApB1"

def idCompatMathStartText : String :=
  "A6puB1A4B1AmB1A2e8yB1ApB1AvB1ApB1AvB1ApB1AvB1ApB1AvB1ApB1"

def idsUnaryOperatorText : String :=
  "A9haB2"

def propertyTexts : List (List String × String) :=
  [(["ahex", "asciihexdigit"], asciiHexDigitText),
    (["alpha", "alphabetic"], alphabeticText),
    (["bidic", "bidicontrol"], bidiControlText),
    (["bidim", "bidimirrored"], bidiMirroredText),
    (["caseignorable", "ci"], caseIgnorableText),
    (["cased"], casedText),
    (["changeswhencasefolded", "cwcf"], changesWhenCasefoldedText),
    (["changeswhencasemapped", "cwcm"], changesWhenCasemappedText),
    (["changeswhenlowercased", "cwl"], changesWhenLowercasedText),
    (["changeswhentitlecased", "cwt"], changesWhenTitlecasedText),
    (["changeswhenuppercased", "cwu"], changesWhenUppercasedText),
    (["dash"], dashText),
    (["defaultignorablecodepoint", "di"], defaultIgnorableCodePointText),
    (["dep", "deprecated"], deprecatedText),
    (["dia", "diacritic"], diacriticText),
    (["emoji"], emojiText),
    (["ecomp", "emojicomponent"], emojiComponentText),
    (["emod", "emojimodifier"], emojiModifierText),
    (["ebase", "emojimodifierbase"], emojiModifierBaseText),
    (["emojipresentation", "epres"], emojiPresentationText),
    (["extendedpictographic", "extpict"], extendedPictographicText),
    (["ext", "extender"], extenderText),
    (["graphemebase", "grbase"], graphemeBaseText),
    (["graphemeextend", "grext"], graphemeExtendText),
    (["hex", "hexdigit"], hexDigitText),
    (["idsb", "idsbinaryoperator"], idsBinaryOperatorText),
    (["idst", "idstrinaryoperator"], idsTrinaryOperatorText),
    (["idc", "idcontinue"], idContinueText),
    (["ids", "idstart"], idStartText),
    (["ideo", "ideographic"], ideographicText),
    (["joinc", "joincontrol"], joinControlText),
    (["loe", "logicalorderexception"], logicalOrderExceptionText),
    (["lower", "lowercase"], lowercaseText),
    (["math"], mathText),
    (["nchar", "noncharactercodepoint"], noncharacterCodePointText),
    (["patsyn", "patternsyntax"], patternSyntaxText),
    (["patternwhitespace", "patws"], patternWhiteSpaceText),
    (["qmark", "quotationmark"], quotationMarkText),
    (["radical"], radicalText),
    (["regionalindicator", "ri"], regionalIndicatorText),
    (["sentenceterminal", "sterm"], sentenceTerminalText),
    (["sd", "softdotted"], softDottedText),
    (["term", "terminalpunctuation"], terminalPunctuationText),
    (["uideo", "unifiedideograph"], unifiedIdeographText),
    (["upper", "uppercase"], uppercaseText),
    (["variationselector", "vs"], variationSelectorText),
    (["space", "whitespace", "wspace"], whiteSpaceText),
    (["xidc", "xidcontinue"], xidContinueText),
    (["xids", "xidstart"], xidStartText),
    (["hyphen"], hyphenText),
    (["pcm", "prependedconcatenationmark"], prependedConcatenationMarkText),
    (["idcompatmathcontinue"], idCompatMathContinueText),
    (["idcompatmathstart"], idCompatMathStartText),
    (["idsu", "idsunaryoperator"], idsUnaryOperatorText)]

def listedProperty? (name : String) : Option CharSet :=
  (propertyTexts.find? (·.1.contains name)).map fun p => (Runs.ofText p.2).chars (· == 1)

/-- A property that is what is left of another one without the categories and properties that
imply it. -/
structure Remainder where
  names : List String
  whole : String
  parts : List String

def remainders : List Remainder :=
  [⟨["oalpha", "otheralphabetic"], "alpha", ["l", "nl"]⟩,
    ⟨["odi", "otherdefaultignorablecodepoint"], "di", ["cf", "vs"]⟩,
    ⟨["ogrext", "othergraphemeextend"], "grext", ["me", "mn"]⟩,
    ⟨["oidc", "otheridcontinue"], "idc", ["ids", "mn", "mc", "nd", "pc"]⟩,
    ⟨["oids", "otheridstart"], "ids", ["l", "nl"]⟩,
    ⟨["olower", "otherlowercase"], "lower", ["ll"]⟩,
    ⟨["omath", "othermath"], "math", ["sm"]⟩,
    ⟨["oupper", "otheruppercase"], "upper", ["lu"]⟩]

def partChars (name : String) : CharSet := ((listedProperty? name).or (category? name)).getD []

def Remainder.chars (r : Remainder) : CharSet :=
  r.parts.foldl (fun s part => CharSet.diff s (partChars part)) (partChars r.whole)

/-- The property with the given name, in small letters and without blanks, dashes and
underscores. -/
def property? (name : String) : Option CharSet :=
  if ["graphemelink", "grlink"].contains name then some (combiningRuns.chars (· == viramaClass))
  else (listedProperty? name).or
    ((remainders.find? (·.names.contains name)).map Remainder.chars)

def alphabetic : CharSet := (Runs.ofText alphabeticText).select (· == 1)

def whiteSpace : CharSet := (Runs.ofText whiteSpaceText).select (· == 1)

/-- Characters of words: letters, marks, digits, connecting punctuation and the two joiners. -/
def wordChars : CharSet :=
  CharSet.normalize (alphabetic ++ (category? "m").getD [] ++ digits ++ (category? "pc").getD []
    ++ (Runs.ofText joinControlText).select (· == 1))

def alphanumeric : CharSet := CharSet.normalize (alphabetic ++ (category? "n").getD [])

end HeatStack.Unicode
