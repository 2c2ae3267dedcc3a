import HeatStack.Unicode.CharSet

/-! # Ages

The version in which a code point was assigned.  An age stands for all characters that were
assigned in its version or before. -/
set_option autoImplicit false
namespace HeatStack.Unicode

def ageNames : List (List String) :=
  [["1.1", "v11"], ["2.0", "v20"], ["2.1", "v21"], ["3.0", "v30"], ["3.1", "v31"],
    ["3.2", "v32"], ["4.0", "v40"], ["4.1", "v41"], ["5.0", "v50"], ["5.1", "v51"],
    ["5.2", "v52"], ["6.0", "v60"], ["6.1", "v61"], ["6.2", "v62"], ["6.3", "v63"],
    ["7.0", "v70"], ["8.0", "v80"], ["9.0", "v90"], ["10.0", "v100"], ["11.0", "v110"],
    ["12.0", "v120"], ["12.1", "v121"], ["13.0", "v130"], ["14.0", "v140"], ["15.0", "v150"],
    ["15.1", "v151"], ["16.0", "v160"], ["17.0", "v170"]]

def ageText : String :=
  String.join [
    "AdyD4AuD8F1G1DiG3HbIeA2hD5G2A1bD1AaD5GhA1yD9F1G8H5G3A2D1FdJ4A2J2BC2A1I3A1P1BC4A7BC1A1BC1Ak",
    "BC1A18J1A7D1F2A1D1A1D1A1D1A1D1AiE2F1G5H4D1AcD1A1uD1AcD1A15J1D2F2D4A1hF2A2F2A2F2I1AsD2A8H2A",
    "2I6FgI4JgK2L2P8BC1A12BC2A7T1A13T1A1D1BC2P2M1BC1BhH1BdAaI1A9B1H3BC8ArBC4T1A5BCbG4M1P1J5H1A1",
    "G9J5A1O1X1H1A1L1AqJ5AjD3G3H6L1AeF2A20D2A5D1AfD1AuG2AaD5G1DeBC1DuG3DrBC2G3HuJiD1dF1BCeI1nBC",
    "2T3K1aBC2KfBC1LsBC2L1BC1SbBC5XvBB1X2BC5BA1X8M1P1MbP6Q2X1R8WaXbT1RfQ1MrP1K1A3G1A1hL2AiK1L1A",
    "5K1L2ApJ2L5P1K2I2H1I2P1A3BC1A8BC2A2BC2AmBC1A7BC1A1BC3A4BC2A1G1A7BC2A2BC2A3H1BC8A1BC4A2BC1A",
    "5BC2AlK1S2T1BC2G1A1G1BC1A6BC4A2BC2AmBC1A7BC1A2BC1A2BC1A2BC2A1BC1A5BC4A2BC2A3BC3J1BC7A4BC1A",
    "1BC7AfJ1T1BCaA3BC1A7G1A1BC1A3BC1AmBC1A7BC1A2BC1A5BC2AaBC1A3BC1A3BC2A1BCfA1G3BC2AaM1G1BC7Q1",
    "S6BC1A3BC1A8BC2A2BC2AmBC1A7BC1A2BC1G1A4BC2A8J1BC2A2BC2A3BC7W1A2BC4A2BC1A3J2BC2AbG1L6BCaA2B",
    "C1A6BC3A3BC1A4BC3A2BC1A1BC1A2BC3A2BC3A3BC3A8H1A3BC4A5BC3A3BC1A4BC2J1BC6A1BCeH1AcG8BC5P1A3T",
    "1A8BC1A3BC1AnBC1AaP1A5BC2X1J1A7BC1A3BC1A4BC7A2BC1J2Q1BC1BB1X1BC2A2J2BC2AaBC7U1J8R1P1A2T1A8",
    "BC1A3BC1AnBC1AaBC1A5BC2G2A7BC1A3BC1A4BC7A2BC5BB1X1A1BC1A2I2BC2AaBC1I2Y1BCcS1P1A2W1A8BC1A3B",
    "C1AnL1AgL1S2J1A6J1BC1A3BC1A4L1R1BC4R3A1R7Q1A2J2BC2AaJ6R3J7BC1W1D2BC1DiBC3DoBC1D9BC1D1BC2D7",
    "BC3D1BC4D6BC1D1BC1D8BC6PaBC2D3BCcA1mBC4AtBC11A2BC1A1BC1U1A2U1A1BC1U1A1U6A4U1A7U1A3BC1A1BC1",
    "A1U2A2U1AdU1A3BC2A5BC1A1BC1A6Y1BC1AaBC2A2M2BCwB20BC1BxD1J2BC4BrL4B6D1B1BC1BlD3B7D1B1D3BC1D",
    "fBC1J1D1H2J3K4L2BC11DyJ1D5J1D2J1D7J3D4J6DqJ1sK4J2A12BC1M1BC5M1BC2A13F2H2A1H1M3A2iK5A1wK5A2",
    "aK6D7H1D1rH1D1BC1D4BC2D7BC1D1BC1D4BC2D13H1D1BC1D4BC2DvH1D1BC1D4BC2D7BC1D1BC1D4BC2D7H1D7BC1",
    "DnH1DvH1D1BC1D4BC2D7H1D13H1DjBC2L2H2DsBC3HqBC6D2dQ1BC2Q6BC2K1DhiK9DtBC3D29P8BC7FdX1F7X1BC9",
    "X1FnBC9FkBCcFdBC1F3BC1F2BCcD2lG1BC2DaBC6GaBC6DfX1DaBC6D2gT1BC7D16J1BC5K1yBCaGtP2BC1GcBC4Gc",
    "BC4G1BC3G16BC2G5BCbH16K2BC4HqBC6HaK1BC3H2GwHsBC2H2K1rBC1KtBC2KbBC6KaBC6KeBC2PfW2XeBBfBC2BB",
    "cBCkI24X1BC1BA2I19X2BA1J17M3JcM6L1gBC8L4J1kBC3JfBC3J1fR9BA2BC5T17BC2T3M8BC8KzM4S1P2U1BC5G3",
    "0H2gI7JsPfS4X1R1L1K1I2A4bB1J4A2iJ6AmBC2A6BC2A12BC2A6BC2A8BC1A1BC1A1BC1A1BC1AvBC2A1hBC1AfBC",
    "1AeBC2A6BC1AjBC2A3BC1A9BC1A1bD1AnF1D6F5G2H2F1H7F5J1BC1O4A7F1BC2ArBC1H5L8BC3AbB1C1D3F2H4K3L",
    "1N1P3Q1S1X1BB1BCeAiD2F7H1I4J1BCfA1lD2G1H1FfH1I2J1K3A1cD1I1J4K1Q2BC4A2jD9FcA6qFeA1D1A3dD1F1",
    "DuF1gG2HbIcK1LbP7R4S1A11D2BA3BCmAbBClA3vFkG1A46FaA28D8F8AkG2F2H1D1A2eD2FcH2FaG8HbJ1K2G2HgI",
    "1JaK3J4KaL1KjL1K1L4KoP1A4L1A4L2AsL1AzL1A1L1A4L3A1K1A7L2A7FeAvL3AoL1AeL1H7I4M1J1M1L2FsJ4FgD",
    "74Fe8GeH6I7J5I4J15P3J5K5PqBC2PwBB1W1PyT3PcU1P8S1TpQ4TfU1H1bX1H1bX1IdJ3K1J3I4J6K2H2zK7M2BC5",
    "H19BC1M1BC5M1BC2H1iM2BC7H1L1BCeL1HnBC9H7BC1H7BC1H7BC1H7BC1H7BC1H7BC1H7BC1H7BC1JwHoJ4H2JjK1",
    "MaP7R2S5T5U1W3XbBCyDqBC1D2hBCcD5yBCqDcZ4A1kD3F3D1A1BC1A2cF2BC2A6F2A2mF1BC5A14J1S1T1BC1A2mB",
    "C1AgDoL3W5HgJkBA2BC9Z1FgAtG2BC1A10KcG1FfAsG2H1A1eFfAcG4A1bV1A3bG4A2rG2AvG1D52uWaG1sAg4mHmJ",
    "8K8M1Q9SlT5WdX3DwdBC3DiF2DgF1DcF1D3F1D1BC9K1cJ8cBCkJwL2JiM8JsP6Q1M1K2gBC8HnI4J5I2J2zL2Q1L2",
    "M2PcLaM1P3R1T1P2Q6T2U6X2U5W4BA3BB2X2BB1X1BB1X5BA3BCkBB1X3W2P1M2L1J5H18W1BC3KaBC6I1kBC8J1xR",
    "1BC8JcBC6KsQ2T2J2cBCbJ1KtBC3K26BC1KbBC4K2PvBC1J1jBC9JeBC2JaBC2J4KsP4K1vBCoK5MnBCaL6BC2L6BC",
    "2L6BC9L7BC1L7BC1P1cQ4P2U2W4BC4Q28K1aBC2KaBC6B8mcBCcKnBC4K1dBC4B1kwA566M2F1nK3BC2H2yBC12A7B",
    "CcA5BC5D1ApBC1A5BC1A1BC1A2BC1A2BC1A30LgX1BBgAa5XgA1sBB2A1iBB7X1EwAcF1G1X2FgHaBC6A4J3P7Q2Al",
    "F2G2AaBC1AjBC1A4BC4A3F1A1BC1A3rBC2A1BC1A2mF2A2mBC3A6BC2A6BC2A6BC2A3BC3A7BC1A7BCaD3C1A3GcBC",
    "1GqBC1GjBC1G2BC1GfBC2GeBCyG3fBC5G3BC4G19BC3G9H23P2R2BC1JcW1BC3P1BC1bJ1aBC3mJtBC3J1dBCfPsBC",
    "4EvP1E4BC9S3ErBC5P17BC5GuBC1G1H10BC4HeBC16E12G2E12G28BC2GaBC6R10BC4R10BC4P14BC8P1gBCbP1XbB",
    "C1XfBC1X7BC1X2BC1XbBC1XfBC1X7BC1X2BC3BA1gBCcP8nBC9PmBCaP8BCoX6BC1X16BC1X9BC1xG6BC2G1BC1G18",
    "BC1G2BC3G1BC2G1KmBC1K9P1rBC8P9BC1cQjBC1Q2BC5Q5IqK2BC3I1JqBC5J1BBqBC12M1kBC4Q2M2QgBC2Q1aH4B",
    "C1H2BC5H8BC1H3BC1HrT2BC2H3BC4H9T1BC7H9BC7KwPwBCwP13BC4PcBC9K1iBC3KtBC2KrBC5K8PiBC7P4BCcP7B",
    "C28K21BC1jQ1fBCdQ1fBC7Q6T14BC8TaBC6BA12BC3BAtBC8BA2BC5sKvBC1W16BC1W3BC2W2BCgBA3BB3BC8BB9BC",
    "xBB2BA1Y3T14BC8T16BCmXqBC12WsBCkUnBC9L26BC4LuX6BC9P1K1uX1BCaT1BC2MpBC7MaBC6M1hBC1MeT3W1BC8",
    "P13BC9M21Q4P1W2MaP1Q5BC1PkBCbPiBC1P17R1Y3BC1qQ7BC1Q1BC1Q4BC1QfBC1QbBC6P1nBC5PaBC6Q1P3BC1P8",
    "BC2P2BC2PmBC1P7BC1P2BC1P5BC1T1P9BC2P2BC2P3BC2Q1BC6P1BC5P7BC2P7BC3P5BCbBAaBC1BA1BC2BA1BC1BA",
    "12BC1BAaBC1BA1BC2BA1BC1BA4BC1BAaBC1BA2BC8BA2BCtR2iW1R1BC1R1T1U1W2BCuP20BC8PaBC4mP1iBC2PiQk",
    "BCyP1xBCbPaBC6RdBCjM1kU1X1BC6MaBC6BAkBCsQqT1BC2QfBC4QgX7BC55T1oBC2sP2bBCcP1W7BC2W1BC2W8BC1",
    "W2BC1WuBC1W2BC2WcBC9WaBC1yU8BC2U1aBC2UbBCrS20BC8S1gU2SnT1S5BCdXgP1lBC7YaBC2eBB8BC2gBAyBCeB",
    "AaBC6R9BC1R19BC1ReBCaRtBC3RwBC2RmBC1ReBC21S7BC1S2BC1S18BC3S1BC1S2BC1S9BC8SaBC6T6BC1T2BC1T1",
    "1BC1T2BC1T6BC7TaBC6BB18BC4BBaBC6uTpBC7YhBC1Y15BC3YsBA1BC2dW1BCfU1eBCdU1IofP16Q1BC2uI2rPcBC",
    "1I4P1BCbQ5gBC218X2rBCdKtrY1U9YtBCaBA32zBC5Qg7BC5a1BA1mBC1c6LftBC7PvBC1PaBC4P2X27BC1XaBC6Pu",
    "BC2P6BCaP1yBCaPaBC1P7BC1PlBC5PjBCc0BA1mBC5iT2jBC5BBpBC2BBpBC18M1xU6BC4U1M1bU9BC7MhBC1sR1S1",
    "U2W1BCbW2BB5BC9R4q5T5U6BB8RkzWdfBC15BA1W9BBmBC2pBB37BC6ppX4BC1X7BC1X2BC1L2S7xX4BCfY1BCtU3B",
    "C2Y1BCeU4BC8Sb0BC1s4P2zBC5PdBC3P9BC7PaBC2P8BC318BA6yBB3BC3BAc4BC6BBnBCfBBhBCfX1aBC2XnBC9X3",
    "8BC1oE6uBCaE13BC2J1E50QbX2BClH1yBC3eYkBCcTkBCcG2fBC9IiT7BC3rE2dBC1E1zBC1E2BC2E1BC2E2BC2E4B",
    "C1EcBC1E1BC1E4G1E2BC1E1tBC1E4BC2E8BC1E7BC1EsBC1E4BC1E5BC1E1BC3E7BC1E9eH2BC2E82I2BC2E1eQi4B",
    "CfQ5BC1QfBCuoXvBC6Y6BC5xR7BC1RhBC2R7BC1R2BC1R5BC5Y1qBCxY1BC34U19BC3UeBC2UaBC4U2BC8wXvBChU1",
    "mBC5U1BCcwY16BC5yBA17BC4BA1BC5cBBvBC1BBmBC8BB2BC68X7BC1X4BC1X2BC1XfBC1P5hBC2PgBC15R23U1BC4",
    "RaBC4R2BCltT1wBC24U1pBC5eM4BC1MrBC1M2BC1M1BC2M1BC1MaBC1M4BC1M1BC1M1BC6M1BC4M1BC1M1BC1M1BC1",
    "M3BC1M2BC1M1BC2M1BC1M1BC1M1BC1M1BC1M1BC1M2BC1M1BC2M4BC1M7BC1M4BC1M4BC1M1BC1MaBC1MhBC5M3BC1",
    "M5BC1MhBC1gM2BC7iJ18BC4J2sBCcLfBC2LeP1BC1LfBC1LfPmBCaKbP2W3KvT1L1K1LbK1L1K1L2K1L3K1L3K5L8K",
    "1L7K1LaM2U1W3L9K1L1K2L2K1LaK4L2K1LaRiW1BC1kLqK1L2BCdKyL9R1BC4K9BC7L2BCeS6BC4aLxPcQ3L6P1L1y",
    "P1Q2LkPcL11P1L5P4Q5PcLhP7Q8L1rP1L1P1L52P1L4P2Q1L1qP2M4P7Q5LoPiR1P15R1P2eL5M1LgM1L3M1L1M1L1",
    "M1L1M1L3M1L6M2L4M1L1M2L4M1LcP2Q2LbP1cL1yPaQ1R2S2U1W2BB1BC3Y1X3PdBC3P4R3S2T1U1W2BC3L38Y3BB4",
    "Y5P2dT4Y1BC6UcBC4X1BCfPcBC4P1kBC8PaBC6P14BC8PuBC2W2BAaBC4BA2BCeBB9BC13ScW1U3Q9R6S1R8S8R1S2",
    "RcU1RcS1T3RfSdT5U1W1T4W2X1T1U1T4Q5RdS6TbW2U6W3U2TaU6Q1T2U8W1X1U3SnTpU2cBB4BC8TeBC2U4W1Y3U3",
    "X2BC3U3W4Y2BA1BB1BC3BB1BA1U6WjX4Y3W7X4Y3BA1Y1W3X3BA1BC1BB1BC4BB1Y2W7X3Y2BA1BC2BA1X8Y1BA1BB",
    "1BC4BB1X7Y2BC7W43BC1W1jBA11WaBB1BCsjB2EwyfW7X2BCwK379X4Y1BB6L66BC2Q4g2BBcBC2S5rlBCfZhaBC1w",
    "iEf2BC15sB2W3t7BC5Y38gBB3beBC1478B2BC1ekeB2BC1ekeB2BC1ekeB2BC1ekeB2BC1ekeB2BC1ekeB2BC1ekeB",
    "2BC1ekeB2BC1ekeB2BC1ekeB2BC1E1BCuE2oBC3kG6oBC1e6mB2t4y"]

def ageRuns : Runs := Runs.ofText ageText

def age? (name : String) : Option CharSet :=
  (ageNames.findIdx? (·.contains name)).map fun i => ageRuns.chars (· ≤ i)

end HeatStack.Unicode
