import HeatStack.Unicode.CharSet

/-! # Joining of letters

In some scripts letters join with their neighbours, on one side or on both. -/
set_option autoImplicit false
namespace HeatStack.Unicode

inductive Joining
  | none
  | left
  | right
  | both
  /-- Joining goes through the character as if it were not there. -/
  | transparent
deriving DecidableEq

def joinings : List Joining := [.none, .left, .right, .both, .transparent]

/-- The ways in which the characters of domain names join. -/
def joiningText : String :=
  String.join [
    "AlcE35A7mE8A7aE19A1E1A1E2A1E2A1E9A1sEbA5D1A1C4D1C1D1C1D5C4DdA1D7C1D2ElAeD2E1C3A5DfCiD12C1D2C",
    "9D1C1D1C1D2C2A1C1E8A1E6A2E2A1E4C2AaD3A2D1AgC1E1D3C5D4C1D9C1D1C1D1C1D2C1EtC1DbC3DfC2D4C1D1C2D",
    "3C2D6A12EbApDxE9A9E1AoE4A1E9A1E3A1E7AgC1D5C2D1C1DaC1D1C3E5A2D1A1D4A1C1D1CqA3D1A2D5C1D8E9DaC3",
    "A1C1D2C2D6C1DfA1E1lA1jE1A1E1A4E8A4E1A3EfA2E2AtE1A1mE1A4E6A6E1AkE4AoE5A1lE2A3ErAkE2A3E1AbE2A1",
    "lE1A4E8A4E3AiE4AkE8A1mE1A2E1A1E6A6EaAbE4AsE1A1pE1AcE3A1cE1A3E1A1jE1A1E3A5EiAaE4ArE1A1mE1A2E1",
    "A6E1A5E9AdE4AqE2A1lE2A4E5A7E1AkE4ArE1A20E5A3E6A2hE1A2EbA8E8A2qE1A2E9AbE8A20E2ArE1A1E1A1E1A1j",
    "EeA1E5A1E2A5E1dA8E1A2uE4A1E6A1E2A2E2ApE2A4E3AgE4AdE1A2E2A6E1AfE1AjjE3AqaE3AtE2AuEeAiEeA1jE7A",
    "8E1A2EbA9E3A13D1AoD2oA5E2DyE1D6A34E3A4E2A9E1A6E7A5zE2A2E3A1kE1A1E9A1E1A2E8A6EdA1cE2cA1cE1A1E",
    "5A1E1A5E1A14E9AcE2AwE4A2E2A1E3A1kE1A1E2A3E1A1E3A1mE8A2E5A45E3A1EdA1E7A4E1A6E1A3E2A5iE1tAjzE1",
    "gA2crE4A3wE1A2oEwAfeE4A2zE4An9uE4A1EaAwE2A28E2A7kE1A3E1A4E1ApE2A5E4AgD1eB1A29EaAiEiAdE1A12E8",
    "ApEbA1aE3A1cE1A2E4A2E2A13E1A1vE6A2E2A2EbA3E1A8E1A1bE1A1fE1A1E3A2E2A5E2A1E1A16E2A8EbA6cE1A2E1",
    "A4E3Afn2E44AhaE11AqgE3nA2oE1A45EaA1a9EfA14E8A3kD5C1A1C1A1C2A2B1C5D4B1D5C1D3C1A2C1E6D4C1A40D1",
    "C1D1C3D3C1D2C1D1C2D1C8AgC4D2A9dB1DxC1D1EcA1lE5A8tE2AlC1D2A1DaA16E6A1cD3C1DhA1EbD3C1ArD4C2DcE",
    "4A16D1A1D2C3A1D1C2D2C1D2A1D1C2D1A4C1D1BlAxE1A1iEfA15E1A2E2AaE3A1dE4A2E2A7EeA1cE3A10E5A1E9A1p",
    "E1AcE2A1gE9AaE4A2E1A2nE3A2E1A1E2A6E1A2E1rA2nE1A3EdAgE2A1lE2A3E1A11EqA1nE7AcE1A1E1A1E1AeEvA1k",
    "E8A2E3A1E1AnE1A2cE6A1E1A4E2A1E2A6mE6A4E2A1E2ArE10A1fE8A2E1A1E2A2yE1A1E1A2E6A1E1A2tE1A1E1A2E4",
    "A1E9A73E9A1E2A74E2A1E1A4E1A40E8A4E1AwEaA14E6A2E4A8E9A1E6A2E3A1aEdA1E2A5iE1A1E3A1E1A5lEeA1E1A",
    "2aEnA1E7A1E2A1E23A1dElA1E9A1sE3A2E1A1E1A9nE2AbE2A1gE8A2E1A1E1AnE2eA428E1A6EpA8u6EcA3E3A1xcE5",
    "A1nE7At4E1A1rE4A29EcAf59E2A3mpE28AevE3AhE8A2E7AuE4A44E3A1izE1jA4E1eA8E1AeE1AmEv9A74E74A1cE7A",
    "afEiA18E4Ae4E4A72E2A6rE1A2E1A7E2A5E9AcyE2aDyE8"]

def joiningRuns : Runs := Runs.ofText joiningText

def joining (c : Char) : Joining :=
  ((joiningRuns.label? c.toNat).bind fun i => joinings[i]?).getD .none

end HeatStack.Unicode
