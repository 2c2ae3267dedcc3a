import HeatStack.Unicode.CharSet

/-! # Where a text may be divided

A text divides into the characters that a reader sees, into words and into sentences.  For each of
the three every character has a class, which says where one part may end and the next begin.  Label
zero of the tables is for characters without a class of their own; no name stands for these. -/
set_option autoImplicit false
namespace HeatStack.Unicode

/-- The names of the classes, which are labelled from one on, and their table. -/
structure Division where
  names : List (List String)
  table : String

def Division.class? (d : Division) (name : String) : Option CharSet :=
  (d.names.findIdx? (·.contains name)).map fun i => (Runs.ofText d.table).chars (· == i + 1)

def clusterText : String :=
  String.join [
    "DaC1D2B1DiA2nDxAdD1AgiE34A7nE7A7bE19A1E1A1E2A1E2A1E1A1kH6AaEbA1D1A1aElAgE1A2tE7H1A1E6A2E2A",
    "1E4AxH1A1E1AuErA2jEbA1mE9A9E1AoE4A1E9A1E3A1E5A17E3A1gH2A5E9A16EoH1EwI1A1iE1I1E1A1I3E8I4E1I",
    "2A1E7AaE2AtE1I2A1kE1A1E1I2E4A2I2A2I2E1A9E1AaE2AqE1A2E2I1A1kE1A1I3E2A4E2A2E3A3E1AuE2A3E1AbE",
    "2I1A1kE1A1I3E5A1E2I1A1I2E1AkE2AmE6A1E1I2A1kE1A1E2I1E4A2I2A2I2E1A7E3AaE2AuE1A1nE1I1E1I2A3I3",
    "A1I3E1A9E1A14E1I3E1A1jE1A1E3I4A1E3A1E4A7E2AbE2AtE1I2A1kE1A1I1E2I1E1I2A1E3A1E4A7E2AbE2AfI1A",
    "cE2I2A1jE2A1E1I2E4A1I3A1I3E1H1A8E1AaE2AtE1I2A1yE1A4E1I2E3A1E1A1I7E1AiI2A1pE1A1I1E7AcE8A2qE",
    "1A1I1E9AbE7A21E2ArE1A1E1A1E1A4I2A1dEeI1E5A1E2A5EbA1E10A9E1A2uE4I1E6A1E2I2E2AnI2E2A4E3AgE4A",
    "dE1A1I1E2A6E1AfE1A2qJ2oK20L2gA9pE3AqaE4AsE3AtE2AuE2A1sE2I1E7I8E1I2EbA9E1A19E3D1E1A39E2AyE1",
    "A3aE3I4E2I3A4I2E1I6E3A63E2I2E1A1lI1E1I1E7A1E1A1E1A2E8I6EaA2E1A1cE1aA2EcAkE4I1A1bEaI4E3A12E",
    "9AcE2I1AuI1E4I2E6A1kE1I1E2I3E1I1E5A1cI8E8I2E2A48E3A1EdI1E7A4E1A6E1A2I1E2A5iE1sAejD1E1F1D2A",
    "oD7A1dDgA2oExA2daE3A3xE1A2oEwAfeE6A2xE2An9wE4A1EaAwE2A28E2A7kE1A3E1A4E1AnI2E2I1A4E1A2bI2A1",
    "eIgE2AqEiAdE1A12E8ApEbI1E1AcJtA3E3I1A1bE1I2E4I2E2I2E1A10E1A1vE6I2E2I2E2AcE1A8E1I1A1aE1A1fE",
    "1A1E3A2E2A5E2A1E1A15I1E2I2A5I1E1A6kI2E1I2E1I2A1I1E1AiM1NrM1NrM1NrM1NrM1NrM1NrM1NrM1NrM1NrM",
    "1NrM1NrM1NrM1NrM1NrM1NrM1NrM1NrM1NrM1NrM1NrM1NrM1NrM1NrM1NrM1NrM1NrM1NrM1NrM1NrM1NrM1NrM1N",
    "rM1NrM1NrM1NrM1NrM1NrM1NrM1NrM1NrM1NrM1NrM1NrM1NrM1NrM1NrM1NrM1NrM1NrM1NrM1NrM1NrM1NrM1NrM",
    "1NrM1NrM1NrM1NrM1NrM1NrM1NrM1NrM1NrM1NrM1NrM1NrM1NrM1NrM1NrM1NrM1NrM1NrM1NrM1NrM1NrM1NrM1N",
    "rM1NrM1NrM1NrM1NrM1NrM1NrM1NrM1NrM1NrM1NrM1NrM1NrM1NrM1NrM1NrM1NrM1NrM1NrM1NrM1NrM1NrM1NrM",
    "1NrM1NrM1NrM1NrM1NrM1NrM1NrM1NrM1NrM1NrM1NrM1NrM1NrM1NrM1NrM1NrM1NrM1NrM1NrM1NrM1NrM1NrM1N",
    "rM1NrM1NrM1NrM1NrM1NrM1NrM1NrM1NrM1NrM1NrM1NrM1NrM1NrM1NrM1NrM1NrM1NrM1NrM1NrM1NrM1NrM1NrM",
    "1NrM1NrM1NrM1NrM1NrM1NrM1NrM1NrM1NrM1NrM1NrM1NrM1NrM1NrM1NrM1NrM1NrM1NrM1NrM1NrM1NrM1NrM1N",
    "rM1NrM1NrM1NrM1NrM1NrM1NrM1NrM1NrM1NrM1NrM1NrM1NrM1NrM1NrM1NrM1NrM1NrM1NrM1NrM1NrM1NrM1NrM",
    "1NrM1NrM1NrM1NrM1NrM1NrM1NrM1NrM1NrM1NrM1NrM1NrM1NrM1NrM1NrM1NrM1NrM1NrM1NrM1NrM1NrM1NrM1N",
    "rM1NrM1NrM1NrM1NrM1NrM1NrM1NrM1NrM1NrM1NrM1NrM1NrM1NrM1NrM1NrM1NrM1NrM1NrM1NrM1NrM1NrM1NrM",
    "1NrM1NrM1NrM1NrM1NrM1NrM1NrM1NrM1NrM1NrM1NrM1NrM1NrM1NrM1NrM1NrM1NrM1NrM1NrM1NrM1NrM1NrM1N",
    "rM1NrM1NrM1NrM1NrM1NrM1NrM1NrM1NrM1NrM1NrM1NrM1NrM1NrM1NrM1NrM1NrM1NrM1NrM1NrM1NrM1NrM1NrM",
    "1NrM1NrM1NrM1NrM1NrM1NrM1NrM1NrM1NrM1NrM1NrM1NrM1NrM1NrM1NrM1NrM1NrM1NrM1NrM1NrM1NrM1NrM1N",
    "rM1NrM1NrM1NrM1NrM1NrM1NrM1NrM1NrM1NrM1NrM1NrM1NrM1NrM1NrM1NrM1NrM1NrM1NrM1NrM1NrM1NrM1NrM",
    "1NrM1NrM1NrM1NrM1NrM1NrM1NrM1NrM1NrM1NrM1NrM1NrM1NrM1NrM1NrM1NrM1NrM1NrM1NrM1NrM1NrM1NrM1N",
    "rM1NrM1NrM1NrM1NrM1NrM1NrM1NrM1NrM1NrM1NrM1NrM1NrM1NrM1NrM1NrM1NrM1NrM1NrM1NrM1NrM1NrM1NrM",
    "1NrM1NrM1NrM1NrM1NrM1NrM1NrM1NrM1NrM1NrM1NrM1NrM1NrM1NrM1NrM1NrM1NrM1NrM1NrM1NrM1NrM1NrM1N",
    "rM1NrM1NrM1NrM1NrM1NrM1NrM1NrAcKnA4L1dA6xuE1AkhEgAgEgA5rD1A4eE2A28DcAe9E1A6aE1A45E5A1aeE3A",
    "1E2A5E4A14E3A4E1A4lE2AfxE4A1tE5A8tE2A25E6A1yEbA1dE4A3eI1E1I1A1hEfA15E1A2E2AaE3I1A19I3E4I2E",
    "2A2H1A4E1AaH1A1eE3A10E5I1E8AgI2A18E1AcE2I1A1cI3E9I1E1A1H2A5E4A1I1E1A2kI3E3I2E4A6E1A2E1A4dE",
    "1I3E8AlE2I2A1jE2A1E1I1E1I4A2I2A2I2E1A9E1AaI2A2E7A3E5A1vE1I2E6A1E1A2E1A1E3I1A1I2E3H1E1AeE2A",
    "2aI3E8I2E3I1E1AnE1A29E1I2E6I1E1I2E1I1E2I1E2A6jE1I2E4A2I4E2I1E2ArE2A2aI3E8I2E1I1E2A2yE1I1E1",
    "I2E8A2tE1I1E1A2E4I1E5A74I3E9I1E2A6tE1I5A1I2A2E4H1I1H1I1E1A3xI3E4A2E2I4E1A3I1AsEaA14E6I1A1E",
    "4A8E1A9E6I2E3A14H6EdI1E2A5iE1I1E3I1E1I1A5jI1E7A1E6I1E1A2aEmA1I1E7I1E2I1E2A3eE6A3E1A1E2A1E7",
    "H1E1A1uI5A1E2A1I2E1I1E1A9nE2I2A9E2H1I1A1cI2E5A3I2E3AnE1A445DgE1A6EfA8ugEcI3E3A1xcE5A1nE7Af",
    "gK1A3K4AdgE1A1I1jA7E4A29E1AbE2Af57E2A1D4A3mkE1aA2EnAf2E5A3E6D8E8A2E7AuE4A44E3A1izE1jA4E1eA",
    "8E1AeE1AmE5A1EfA11sE7A1EhA2E7A1E2A1E5A2sE1A4gE7AafE1A1pE4Ae4E4A72E2A6rE1A2E1A7E2A5E1Ad6E7A",
    "31E7A1p7GqAe3E5Agx6oDwE2oD3kE6oD2s0"]

def clusters : Division where
  names := [["cr"], ["lf"], ["cn", "control"], ["ex", "extend"], ["zwj"],
    ["regionalindicator", "ri"], ["pp", "prepend"], ["sm", "spacingmark"],
    ["l"], ["v"], ["t"], ["lv"], ["lvt"]]
  table := clusterText

def wordText : String :=
  String.join [
    "AaC1D2B1AiS1A1L1A4K1A4O1A1M1A1PaN1O1A5JqA4Q1A1JqAaD1A10J1A2G1A7J1A1N1J1A1J1A5JnA1JvA1JdcA6",
    "JyE34J5A1J2A2J4O1J1A6J1N1J3A1J1A1JkA1J2bA1J3vA1E7J4mA1J12A2J4A1J1N1J15O1J1A6E19A1E1A1E2A1E",
    "2A1E1A8IrA4I4J1N1AbP6A6O2A2EbA1G1A3J17ElPaA1P1O1A1J2E1J2rA1J1E7P1A1E6J2E2A1E4J2PaJ3A2J1AfJ",
    "2E1JuErA2J2hEbJ1AePaJxE9J2A2O1A1J1A2E1A2JmE4J1E9J1E3J1E5AiJpE3A4JbA5JoA1J7P2A5E9J16EoP1ExJ",
    "1iE3J1EiJ1E7JaE2A2PaA1JgE3A1J8A2J2A2JmA1J7A1J1A3J4A2E1J1E7A2E2A2E3J1A8E1A4J2A1J3E2A2PaJ2Aa",
    "J1A1E1A2E3A1J6A4J2A2JmA1J7A1J2A1J2A1J2A2E1A1E5A4E2A2E3A3E1A7J4A1J1A7PaE2J3E1AbE3A1J9A1J3A1",
    "JmA1J7A1J2A1J5A2E1J1E8A1E3A1E3A2J1AfJ2E2A2PaA9J1E6A1E3A1J8A2J2A2JmA1J7A1J2A1J5A2E1J1E7A2E2",
    "A2E3A7E3A4J2A1J3E2A2PaA1J1AgE1J1A1J6A3J3A1J4A3J2A1J1A1J2A3J2A3J3A3JcA4E5A3E3A1E4A2J1A6E1Ae",
    "PaAgE5J8A1J3A1JnA1JgA2E1J1E7A1E3A1E4A7E2A1J3A1J2A2J2E2A2PaAgJ1E3A1J8A1J3A1JnA1JaA1J5A2E1J1",
    "E7A1E3A1E4A7E2A5J3A1J2E2A2PaA1J2E1AcE4J9A1J3A1J15E2J1E7A1E3A1E4J1A5J3E1A7J3E2A2PaAaJ6A1E3A",
    "1JiA3JoA1J9A1J1A2J7A3E1A4E6A1E1A1E8A6PaA2E2A1pE1A2E7AcE8A1PaA2fE1A2E9AbE7A1PaA12J1AnE2A6Pa",
    "AbE1A1E1A1E1A4E2J8A1J10A4EkA1E2J5EbA1E10A9E1A2sEkA1PaAcE4A4E3A1E3A2E7A3E4AdEcA1E1PaE4A2J12",
    "A1J1A5J1A2J17A1J99A1J4A2J7A1J1A1J4A2J15A1J4A2JxA1J4A2J7A1J1A1J4A2JfA1J1lA1J4A2J1vA2E3AwJgA",
    "gJ2eA2J6A3Jh8A2JhS1JqA5J23A3JbA7JiE4A9JjE3AbJiE2AcJdA1J3A1E2A1sEwA9E1A2PaAxE3G1E1PaA6J2hA7",
    "J5E2JyE1J1A5J1yAaJvA1EcA4EcAaPaA3kPbA11JnE5A1lEaA1EtA2E1PaA6PaAmE1aA2EcAkE5J1bEhJ8A3PaAhE9",
    "AcE3JuEdJ2PaJ18EeAcJ10EkA8PaA3J3PaJ10A2JbA5J17A2J3AgE3A1ElJ4E1J6E1J2E3J1A5J5cE1sJ7qA2J6A2J",
    "12A2J6A2J8A1J1A1J1A1J1A1JvA2J1hA1J7A1J1A3J3A1J7A3J4A2J6A4JdA5J3A1J7A3S7A1S3A1E1F1G2A8M2AaM",
    "1A2N1D2G5Q1AfQ2A3O1AfQ1AaS1G5A1GaA1J1AdJ1AgJdA1fExAhJ1A4J1A2JaA1J1A3J5A6J1A1J1A1J1A1J4A1Jb",
    "A2J4A5J5A4J1AhJ15AmlJ1gA1eeJ6dA6J4E3J2AcJ12A1J1A5J1A2J1kA7J1AfE1JnA9J7A1J7A1J7A1J7A1J7A1J7",
    "A1J7A1J7A1EwA1bJ1AcwS1A4J1A10E6A1H5A5J2A2kE2H2A3H2jA1H4A5J17A1J2mAhJwA1cHgA5sH1bA1H2gAlgoJ",
    "wdA1vJ1aA2J7hA3JgPaJ2AkJ1bE4A1EaA1JvE2J28E2AmJ5xAkJhE1J3E1J4E1JnE5A4E1AjJ1gAcE2J1eEiAaPaA6",
    "EiJ6A3J1A1J2E1PaJsE8A2JnEdAcJtA3E4J1bEeAeJ1PaAbE1AaPaA6J15EeA9J3E1J8E2A2PaAxE3A1eE1A1E3A2E",
    "2A5E2A1E1AuJbE5A2J3E2AaJ6A2J6A2J6A9J7A1J7A1J1mA6J37E8A1E2A2PaA6J8mcAcJnA4J1dA6x0J7AcJ5A5I1",
    "E1IaA1IdA1I5A1I1A1I2A1I2A1IaJ2qAxJa3AiJ1sA2J1iA14JcA4EgA3N1AcEgA3Q2AoQ3O1A1M1A1O1N1AqJ5A1J",
    "3rA2G1A7M1A4O1A1M1A1PaN1O1A5JqA4Q1A1JqAbH1kE2JvA3J6A2J6A2J6A2J3AsG3A4JcA1JqA1JjA1J2A1JfA2J",
    "eAyJ3fA1xJ1hA3sE1A3mJtA3J1dAfE1AvJwAdJuA5J12E5A5JuA2J10A4J8A1J5A16J4eA2PaA6J10A4J10A4J14A8",
    "J1gAcJbA1JfA1J7A1J2A1JbA1JfA1J7A1J2A3J1gAcJ8nA9JmAaJ8AoJ6A1J16A1J9A1xJ6A2J1A1J18A1J2A3J1A2",
    "JnAaJnA9JvA1tJjA1J2AaJmAaJqA6JqA12J1kA6J2A1sJ1E3A1E2A5E4J4A1J3A1JtA2E3A4E1AwJtA3JtAzJ8A1Js",
    "E2ApJ1iAaJmAaJjAdJiA32J21A1jJ1fAdJ1fAdJ10E4A8PaA6PaJsA3E5A1JnA6yJ16A1E2A3J2AgJ6A1eE6JtAaJ1",
    "A8JmEbAvJiE4A16JlArJnA9E3J1hEfAvPaE1J2E2J1A9E4J19EbA2P1A4E1AaP1A2JpA7PaA6E3J10EeA1PaA4J1E2",
    "J1A8JzE1A2J1A9E3J1cEeJ4A4E4A1E2PaJ1A1J1AzJiA1JpEcA6E1J2E1A1qJ7A1J1A1J4A1JfA1JaA7J1bEcA5PaA",
    "6E4A1J8A2J2A2JmA1J7A1J2A1J5A1E2J1E7A2E2A2E3A2J1A6E1A5J5E2A2E7A3E5AbJaA1J1A2J1A1J12A1J1E9A1",
    "E1A2E1A1E4A1E5J1E1J1AdE2AtJ1hEiJ4A5PaA4E1J3AuJ1cEkJ2A1J1A8PaA4mJ1bE7A2E9AnJ4E2AyJ1cEhA3J1A",
    "bPaA12J17EdJ1A7PaA6PkA1lEfA4PaA5iJ18EfA2tJ1sPaAlJ8A2J1A2J8A1J2A1JoE6A1E2A2E4J1E1J1E2AcPaA1",
    "yJ8A2J13E7A2E7J1A1J1E1ArJ1EaJ14E7J1E4A8E1A8J1EbJ1aEgA3J1AiJ21A2vE8A2gJxAfPaA6J9A1J11E8A1E8",
    "J1AfPaAoJuA2EmA1EeA21J7A1J2A1J12E6A3E1A1E2A1E7J1E1A8PaA6J6A1J2A1JwE5A1E2A1E5J1A7PaA6J18A4P",
    "aA6uJjE4A9E2J1E1JdA1JyE7A3E5AdPaE1A2dJ1A27JpmA2uJ33AhJ5gA218J2pAfJtsGgE1J6EfAaJ32zA5Jg7A5a",
    "1JuEiPaA1c6JftA7JvA1PaA6J27A1PaA6JuA2E5AbJ1cE7A9J4AcPaA9JlA5JjAc0J19A3PaA5iJ1sAwJpA2JpA18J",
    "23A4E1J1E1jA7E4JdA1sJ2A1J1E1AbE2Acn2H4A1H7A1H2A1H1A7zH3A1eH1AeH4A23cJ2zA5JdA3J9A7JaA3E2A1G",
    "4A37wPaAeeE1aA2EnAf2E5A3E6G8E8A2E7AuE4A44E3AcbJ2dA1J1zA1J2A2J1A2J2A2J4A1JcA1J1A1J7A1J1tA1J",
    "4A2J8A1J7A1JsA1J4A1J5A1J1A3J7A1J9gA2JpA1JpA1JvA1JpA1JvA1JpA1JvA1JpA1JvA1JpA1J8A2P1eAe8E1jA",
    "4E1eA8E1AeE1AmE5A1EfAuoJvA6J6A5xE7A1EhA2E7A1E2A1E5A5J1qAxE1A34J19A3E7J7A2PaA4J1A8xJuE1AhJ1",
    "8E4PaAd2JsE4PaA5yJuE2J1PaA5hJvA1J3E1J2E1J7E2J5E1A8J2A68J7A1J4A1J2A1JfA1J5hAbE7A15J1wE7J1A4",
    "PaAx2J4A1JrA1J2A1J1A2J1A1JaA1J4A1J1A1J1A6J1A4J1A1J1A1J1A1J3A1J2A1J1A2J1A1J1A1J1A1J1A1J1A1J",
    "2A1J1A2J4A1J7A1J4A1J4A1J1A1JaA1JhA5J3A1J5A1JhAhgJqA6JqA6JqA2kRqAe3E5A1kgPaAgvlzG1AuE2oA3kE",
    "6o"]

def words : Division where
  names := [["cr"], ["lf"], ["newline", "nl"], ["extend"], ["zwj"], ["fo", "format"],
    ["ka", "katakana"], ["hebrewletter", "hl"], ["aletter", "le"], ["singlequote", "sq"],
    ["doublequote", "dq"], ["mb", "midnumlet"], ["midletter", "ml"], ["midnum", "mn"],
    ["nu", "numeric"], ["ex", "extendnumlet"], ["regionalindicator", "ri"], ["wsegspace"]]
  table := wordText

def sentenceText : String :=
  String.join [
    "A9G1C1G2B1AiG1N1O1A4O3A2M2L1A1KaM2A3N1A1IqO1A1O1A3HqO1A1O1A7E1AqG1A9H1O1A1F1A7H1A4H1O1A4In",
    "A1I7HoA1H8I1H1I1H1I1H1I1H1I1H1I1H1I1H1I1H1I1H1I1H1I1H1I1H1I1H1I1H1I1H1I1H1I1H1I1H1I1H1I1H1",
    "I1H1I1H1I1H1I1H1I1H1I1H1I1H1I1H2I1H1I1H1I1H1I1H1I1H1I1H1I1H1I1H2I1H1I1H1I1H1I1H1I1H1I1H1I1",
    "H1I1H1I1H1I1H1I1H1I1H1I1H1I1H1I1H1I1H1I1H1I1H1I1H1I1H1I1H1I1H1I1H1I2H1I1H1I1H3I2H1I1H1I2H1",
    "I3H2I4H1I2H1I3H3I2H1I2H1I1H1I1H1I2H1I1H2I1H1I2H1I3H1I1H1I2H2J1I1H3J4I2H1I2H1I2H1I1H1I1H1I1",
    "H1I1H1I1H1I1H1I1H1I1H2I1H1I1H1I1H1I1H1I1H1I1H1I1H1I1H1I1H2I2H1I1H1I3H1I1H1I1H1I1H1I1H1I1H1",
    "I1H1I1H1I1H1I1H1I1H1I1H1I1H1I1H1I1H1I1H1I1H1I1H1I1H1I1H1I1H1I1H1I1H1I1H1I1H1I1H1I1H1I1H1I1",
    "H1I1H7I2H1I2H2I1H1I4H1I1H1I1H1I1H1I1H1xJ2HzJ7H2A4JcAeH5A7J1A1J1AhD34I1H1I1H1J1A1I1H1A2H4M1",
    "I1A6I1A1I3A1I1A1I2H1IhA1I9HzI1H2I3H3I1H1I1H1I1H1I1H1I1H1I1H1I1H1I1H1I1H1I1H1I1H1I1H5I1H1A1",
    "I1H1I2H2I1fH1cI1H1I1H1I1H1I1H1I1H1I1H1I1H1I1H1I1H1I1H1I1H1I1H1I1H1I1H1I1H1I1H1I1H1A1D7I1H1",
    "I1H1I1H1I1H1I1H1I1H1I1H1I1H1I1H1I1H1I1H1I1H1I1H1I1H1I1H1I1H1I1H1I1H1I1H1I1H1I1H1I1H1I1H1I1",
    "H1I1H1I1H1I1H1I2H1I1H1I1H1I1H1I1H1I1H1I1H2I1H1I1H1I1H1I1H1I1H1I1H1I1H1I1H1I1H1I1H1I1H1I1H1",
    "I1H1I1H1I1H1I1H1I1H1I1H1I1H1I1H1I1H1I1H1I1H1I1H1I1H1I1H1I1H1I1H1I1H1I1H1I1H1I1H1I1H1I1H1I1",
    "H1I1H1I1H1I1H1I1H1I1H1I1H1I1H1I1H1I1H1I1H1I1H1I1H1I1H1A1I12A2J1A3M1A2H15N1A7D19A1D1A1D2A1D",
    "2A1D1A8JrA4J5AcK6A6M2A2DbA1F1N3J17DlKaA1K2A1J2D1J2rN1J1D7K1A1D6J2D2A1D4J2KaJ3A2J1N3AcF1J1D",
    "1JuDrA2J2hDbJ1AeKaJxD9J2A2M1N1J1A2D1A2JmD4J1D9J1D3J1D5A9N1A1N1A3N2A1JpD3A4JbA5JoA1J7K2A5D9",
    "J16DoK1DxJ1iD3J1DiJ1D7JaD2N2KaA1JgD3A1J8A2J2A2JmA1J7A1J1A3J4A2D1J1D7A2D2A2D3J1A8D1A4J2A1J3",
    "D2A2KaJ2AaJ1A1D1A2D3A1J6A4J2A2JmA1J7A1J2A1J2A1J2A2D1A1D5A4D2A2D3A3D1A7J4A1J1A7KaD2J3D1AbD3",
    "A1J9A1J3A1JmA1J7A1J2A1J5A2D1J1D8A1D3A1D3A2J1AfJ2D2A2KaA9J1D6A1D3A1J8A2J2A2JmA1J7A1J2A1J5A2",
    "D1J1D7A2D2A2D3A7D3A4J2A1J3D2A2KaA1J1AgD1J1A1J6A3J3A1J4A3J2A1J1A1J2A3J2A3J3A3JcA4D5A3D3A1D4",
    "A2J1A6D1AeKaAgD5J8A1J3A1JnA1JgA2D1J1D7A1D3A1D4A7D2A1J3A1J2A2J2D2A2KaAgJ1D3A1J8A1J3A1JnA1Ja",
    "A1J5A2D1J1D7A1D3A1D4A7D2A5J3A1J2D2A2KaA1J2D1AcD4J9A1J3A1J15D2J1D7A1D3A1D4J1A5J3D1A7J3D2A2K",
    "aAaJ6A1D3A1JiA3JoA1J9A1J1A2J7A3D1A4D6A1D1A1D8A6KaA2D2AdJ1cD1J2D7A5J7D8A1KaA13J2A1J1A1J5A1J",
    "oA1J1A1JaD1J2D9J1A2J5A1J1A1D7A1KaA2J4AwJ1AnD2A6KaAbD1A1D1A1D1O4D2J8A1J10A4DkA1D2J5DbA1D10A",
    "9D1A1lJ17DkJ1KaN2A4J6D4J4D3J1D3J2D7J3D4JdDcJ1D1KaD4A2I12A1I1A5I1A2J17A1H1J98A1J4A2J7A1J1A1",
    "J4A2J15A1J4A2JxA1J4A2J7A1J1A1J4A2JfA1J1lA1J4A2J1vA2D3A2N1A4N2AnJgAgI2eA2H6A3Jh8A1N1JhG1JqO",
    "2A3J23A3JbA7JiD4A9JjD3N2A9JiD2AcJdA1J3A1D2AcJ1gDwN2A1J1A4J1D1A2KaAoM1N1A4M1N1A1D3F1D1KaA6J",
    "2hA7J5D2JyD1J1A5J1yAaJvA1DcA4DcA8N2KaJuA2J5AbJ18A4JqA6KbA11JnD5A4J1hDaA1DtA2D1KaA6KaAdJ1N4",
    "A4D1aA2DcAkD5J1bDhJ8A1N2KaN2A2N2AbD9A9N3D3JuDdJ2KaJ18DeAcJ10DkA3N2A3KaA3J3KaJ10N2H9I1H1A5J",
    "17A2J3AgD3A1DlJ4D1J6D1J2D3J1A5H5cD1sI1H1I1H1I1H1I1H1I1H1I1H1I1H1I1H1I1H1I1H1I1H1I1H1I1H1I1",
    "H1I1H1I1H1I1H1I1H1I1H1I1H1I1H1I1H1I1H1I1H1I1H1I1H1I1H1I1H1I1H1I1H1I1H1I1H1I1H1I1H1I1H1I1H1",
    "I1H1I1H1I1H1I1H1I1H1I1H1I1H1I1H1I1H1I1H1I1H1I1H1I1H1I1H1I1H1I1H1I1H1I1H1I1H1I1H1I1H1I1H1I1",
    "H1I1H1I1H1I1H1I1H1I1H1I1H1I1H1I1H1I1H1I1H1I1H1I1H1I1H1I1H1I1H1I1H9I1H1I1H1I1H1I1H1I1H1I1H1",
    "I1H1I1H1I1H1I1H1I1H1I1H1I1H1I1H1I1H1I1H1I1H1I1H1I1H1I1H1I1H1I1H1I1H1I1H1I1H1I1H1I1H1I1H1I1",
    "H1I1H1I1H1I1H1I1H1I1H1I1H1I1H1I1H1I1H1I1H1I1H1I1H1I1H1I1H1I1H1I1H1I1H1I1H1I1H1I1H9I8H6A2I6",
    "A2H8I8H8I8H6A2I6A2H8A1I1A1I1A1I1A1I1H8I8HeA2H8I8H8I8H8I8H5A1H2I5A1H1A3H3A1H2I5A3H4A2H2I4A4",
    "H8I5A5H3A1H2I5A3GbF1D2F2A3M2A3O8A4L1A3E2F5G1A9O2A1N2A7O2N3AlG1F5A1FaA1H1AbO2H1AdO2A1HdA1fD",
    "xAhI1A4I1A2H1I3H2I3H1A1I1A3I5A6I1A1I1A1I1A1I4A1H1I4H1J4H1A2H2I2A5I1H4A4H1AhIgHgJ3I1H1J4Aan",
    "O4AtO2AazIqHqAhdO6A7OeA27O2AvOaAb7OmA1rO4AwO2AeaI1cH1cI1H1I3H2I1H1I1H1I1H1I4H1I1H2I1H8I3H1",
    "I1H1I1H1I1H1I1H1I1H1I1H1I1H1I1H1I1H1I1H1I1H1I1H1I1H1I1H1I1H1I1H1I1H1I1H1I1H1I1H1I1H1I1H1I1",
    "H1I1H1I1H1I1H1I1H1I1H1I1H1I1H1I1H1I1H1I1H1I1H1I1H1I1H1I1H1I1H1I1H1I1H1I1H1I1H1I1H1I1H1I1H1",
    "I1H1I1H1I1H1I1H2A6I1H1I1H1D3I1H1A5N3A4H12A1H1A5H1A2J1kA7J1AfD1JnA9J7A1J7A1J7A1J7A1J7A1J7A1",
    "J7A1J7A1DwOeAeO2A2OaA4N1J1AcN1A5O1AgN2O8AbnG1M1N1A2J3OaA2O8A1O3A1J9D6A1J5A2J5A4J2eA2D2A2J3",
    "A1J2iA1J4A5J17A1J2mAhJwA1cJgAe8J534A1sJh3hA1vJ1aA1N1J7hA1N2JgKaJ2AkI1H1I1H1I1H1I1H1I1H1I1H",
    "1I1H1I1H1I1H1I1H1I1H1I1H1I1H1I1H1I1H1I1H1I1H1I1H1I1H1I1H1I1H1I1H1I1H1J1D4A1DaA1J1I1H1I1H1I",
    "1H1I1H1I1H1I1H1I1H1I1H1I1H1I1H1I1H1I1H1I1H1I1H3D2J28D2A1N1A3N1AvJ9A2I1H1I1H1I1H1I1H1I1H1I1",
    "H1I1H3I1H1I1H1I1H1I1H1I1H1I1H1I1H1I1H1I1H1I1H1I1H1I1H1I1H1I1H1I1H1I1H1I1H1I1H1I1H1I1H1I1H1",
    "I1H1I1H1I1H1I1H1I1H1I1H1I1H1I1H1I1H1I1HaI1H1I1H1I2H1I1H1I1H1I1H1I1H1J1A2I1H1I1H1J1I1H1I1H3",
    "I1H1I1H1I1H1I1H1I1H1I1H1I1H1I1H1I1H1I1H1I5H1I5H1I1H1I1H1I1H1I1H1I1H1I1H1I1H1I4H1I1H1I2H1I1",
    "H1I1H1I1H1I1H1I1H1I1H1I1H1I1AkH4I1H1J1H3J7D1J3D1J4D1JnD5A4D1AjJ1gA2N2A8D2J1eDiA8N2KaA6DiJ6",
    "A3J1A1J2D1KaJsD8A1N1JnDdAcJtA3D4J1bDeA7N2A5J1KaA6J5D1JaKaJ5A1J15DeA9J3D1J8D2A2KaA3N3JnA3J1",
    "D3J1eD1J1D3J2D2J5D2J1D1J1AoJ3A2JbD5N2J3D2AaJ6A2J6A2J6A9J7A1J7A1H17A1HeA6H28JzD8N1D2A2KaA6J",
    "8mcAcJnA4J1dA6isJa6A2J2yA12H7AcH5A5J1D1JaA1JdA1J5A1J1A1J2A1J2A1J30AxJa3O2AgJ1sA2J1iA14JcA4",
    "DgM2N1M2N2O2A7DgA1M2A2OgA2O2A7M2L1A1M2N2M1O6A4M1AcJ5A1J3rA2F1A1N1A6O2A2M2L1A1KaM2A3N1A1IqO",
    "1A1O1A3HqO1A1O1A1O2N1O2M1A1J1kD2JvA3J6A2J6A2J6A2J3AsF3A4JcA1JqA1JjA1J2A1JfA2JeAyJ3fA1xJ1hA",
    "3sD1A3mJtA3J1dAfD1AvJwAdJuA5J12D5A5JuA2J10A4J8A1J5A16I14H14J26A2KaA6I10A4H10A4J14A8J1gAcIb",
    "A1IfA1I7A1I2A1HbA1HfA1H7A1H2A3J1gAcJ8nA9JmAaJ8AoH1J2H3A1H16A1H9A1xJ6A2J1A1J18A1J2A3J1A2JnA",
    "aJnA9JvA1tJjA1J2AaJmAaJqA6JqA12J1kA6J2A1sJ1D3A1D2A5D4J4A1J3A1JtA2D3A4D1AmN2A8JtA3JtAzJ8A1J",
    "sD2ApJ1iAaJmAaJjAdJiA32J21A1jI1fAdH1fAdJ10D4A8KaA6KaJ6ImA3D5A1J1HmA6yJ16A1D2A3J2AgJ6A1eD6J",
    "tAaJ1A8JmDbA4N5AmJiD4N4A12JlArJnA9D3J1hDfN2AtKaD1J2D2J1A9D4J19DbA2K1N4D1AaK1A2JpA7KaA6D3J1",
    "0DeA1KaA1N3J1D2J1A8JzD1A2J1A9D3J1cDeJ4N2A2D4N1D2KaJ1A1J1A1N2AwJiA1JpDcN2A1N2A1D1J2D1A1qJ7A",
    "1J1A1J4A1JfA1JaN1A6J1bDcA5KaA6D4A1J8A2J2A2JmA1J7A1J2A1J5A1D2J1D7A2D2A2D3A2J1A6D1A5J5D2A2D7",
    "A3D5AbJaA1J1A2J1A1J12A1J1D9A1D1A2D1A1D4A1D5J1D1J1N2AbD2AtJ1hDiJ4N2A3KaA4D1J3AuJ1cDkJ2A1J1A",
    "8KaA4mJ1bD7A2D9A1N2A5NfJ4D2AyJ1cDhN2A1J1AbKaA12J17DdJ1A7KaA6KkAsJrA2DfA4KaA2N3A1J7A55J18Df",
    "A2tIwHwKaAlJ8A2J1A2J8A1J2A1JoD6A1D2A2D4J1D1J1D2N1A1N1A9KaA1yJ8A2J13D7A2D7J1A1J1D1ArJ1DaJ14",
    "D7J1D4A3N2A3D1A8J1DbJ1aDgA1N2J1AiJ21A2vD8A2gJxAfKaA6J9A1J11D8A1D8J1N2AdKaAoJuA2DmA1DeA21J7",
    "A1J2A1J12D6A3D1A1D2A1D7J1D1A8KaA6J6A1J2A1JwD5A1D2A1D5J1A7KaA6J18A4KaA6uJjD4N2A7D2J1D1JdA1J",
    "yD7A3D5N2AbKaD1A2dJ1A27JpmA2uJ33AhJ5gA218J2pAfJtsFgD1J6DfAaJ32zA5Jg7A5a1JuDiKaA1c6JftA7JvA",
    "1KaA4N2J27A1KaA6JuA2D5N1AaJ1cD7N2A7J4N1AbKaA9JlA5JjAc0J19A1N2KaA5iIwHwAoN1A7IpA2HpA18J23A4",
    "D1J1D1jA7D4JdA1sJ2A1J1D1AbD2J5A9J5p2A15JwA2pJ37A6ppJ4A1J7A1J2A1J83AfJ1AtJ3A2J1AeJ4A8Jb0A1s",
    "4J2zA5JdA3J9A7JaA3D2N1F4A37wKaAeeD1aA2DnAf2D5A3D6F8D8A2D7AuD4A44D3AcbIqHqIqH7A1HiIqHqI1A1I",
    "2A2I1A2I2A2I4A1I8H4A1H1A1H7A1HbIqHqI2A1I4A2I8A1I7A1HqI2A1I4A1I5A1I1A3I7A1HqIqHqIqHqIqHqIqH",
    "qIqHqIqHsA2IpA1HpA1H6IpA1HpA1H6IpA1HpA1H6IpA1HpA1H6IpA1HpA1H6I1H1A2K1eAe8D1jA4D1eA8D1AeD1A",
    "3N1AiD5A1DfAuoHaJ1HkA6H6A5xD7A1DhA2D7A1D2A1D5A5H1qAxD1A34J19A3D7J7A2KaA4J1A8xJuD1AhJ18D4Ka",
    "Ad2JsD4KaA5yJuD2J1KaA5hJvA1J3D1J2D1J7D2J5D1A8J2A68J7A1J4A1J2A1JfA1J5hAbD7A15IyHyD7J1A4KaAx",
    "2J4A1JrA1J2A1J1A2J1A1JaA1J4A1J1A1J1A6J1A4J1A1J1A1J1A1J3A1J2A1J1A2J1A1J1A1J1A1J1A1J1A1J2A1J",
    "1A2J4A1J7A1J4A1J4A1J1A1JaA1JhA5J3A1J5A1JhAhgIqA6IqA6IqAz0O3A12vKaAsmJwyoAwJ3dqA2J4geA2J5rl",
    "AfJhaA1wiJf2A15uJ3t7A5J6juAf5vrF1AuD2oA3kD6o"]

def sentences : Division where
  names := [["cr"], ["lf"], ["ex", "extend"], ["se", "sep"], ["fo", "format"], ["sp"],
    ["lo", "lower"], ["up", "upper"], ["le", "oletter"], ["nu", "numeric"], ["at", "aterm"],
    ["sc", "scontinue"], ["st", "sterm"], ["cl", "close"]]
  table := sentenceText

/-- The division that a property of this name belongs to. -/
def division? (name : String) : Option Division :=
  if ["gcb", "graphemeclusterbreak"].contains name then some clusters
  else if ["wb", "wordbreak"].contains name then some words
  else if ["sb", "sentencebreak"].contains name then some sentences
  else none

end HeatStack.Unicode
