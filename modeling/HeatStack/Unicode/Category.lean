import HeatStack.Unicode.CharSet

/-! # General categories

Every code point has one category of two letters; a category of one letter takes together those
that begin with it.  Surrogates belong to none, being no characters. -/
set_option autoImplicit false
namespace HeatStack.Unicode

/-- The categories in the order of their labels in the table; unassigned code points come last. -/
def categoryNames : List (List String) :=
  [["cc", "control", "cntrl"],
    ["cf", "format"],
    ["co", "privateuse"],
    ["cs", "surrogate"],
    ["ll", "lowercaseletter"],
    ["lm", "modifierletter"],
    ["lo", "otherletter"],
    ["lt", "titlecaseletter"],
    ["lu", "uppercaseletter"],
    ["mc", "spacingmark"],
    ["me", "enclosingmark"],
    ["mn", "nonspacingmark"],
    ["nd", "decimalnumber", "digit"],
    ["nl", "letternumber"],
    ["no", "othernumber"],
    ["pc", "connectorpunctuation"],
    ["pd", "dashpunctuation"],
    ["pe", "closepunctuation"],
    ["pf", "finalpunctuation"],
    ["pi", "initialpunctuation"],
    ["po", "otherpunctuation"],
    ["ps", "openpunctuation"],
    ["sc", "currencysymbol"],
    ["sk", "modifiersymbol"],
    ["sm", "mathsymbol"],
    ["so", "othersymbol"],
    ["zl", "lineseparator"],
    ["zp", "paragraphseparator"],
    ["zs", "spaceseparator"],
    ["cn", "unassigned"]]

def categoryText : String :=
  String.join [
    "AwBC1U3W1U3V1R1U1Y1U1Q1U2MaU2Y3U2IqV1U1R1X1P1X1EqV1Y1R1Y1AxBC1U1W4Z1U1X1Z1G1T1Y1B1Z1X1Z1Y1",
    "O2X1E1U2X1O1G1S1O3U1InY1I7EoY1E8I1E1I1E1I1E1I1E1I1E1I1E1I1E1I1E1I1E1I1E1I1E1I1E1I1E1I1E1I1",
    "E1I1E1I1E1I1E1I1E1I1E1I1E1I1E1I1E1I1E1I1E1I1E1I1E1I1E2I1E1I1E1I1E1I1E1I1E1I1E1I1E1I1E2I1E1",
    "I1E1I1E1I1E1I1E1I1E1I1E1I1E1I1E1I1E1I1E1I1E1I1E1I1E1I1E1I1E1I1E1I1E1I1E1I1E1I1E1I1E1I1E1I2",
    "E1I1E1I1E3I2E1I1E1I2E1I3E2I4E1I2E1I3E3I2E1I2E1I1E1I1E1I2E1I1E2I1E1I2E1I3E1I1E1I2E2G1I1E3G4",
    "I1H1E1I1H1E1I1H1E1I1E1I1E1I1E1I1E1I1E1I1E1I1E1I1E2I1E1I1E1I1E1I1E1I1E1I1E1I1E1I1E1I1E2I1H1",
    "E1I1E1I3E1I1E1I1E1I1E1I1E1I1E1I1E1I1E1I1E1I1E1I1E1I1E1I1E1I1E1I1E1I1E1I1E1I1E1I1E1I1E1I1E1",
    "I1E1I1E1I1E1I1E1I1E1I1E1I1E1I1E1I1E7I2E1I2E2I1E1I4E1I1E1I1E1I1E1I1E1xG2EqFiX4FcXeF5X7F1X1F",
    "1XhL34I1E1I1E1F1X1I1E1BD2F1E3U1I1BD4X2I1U1I3BD1I1BD1I2E1IhBD1I9EzI1E2I3E3I1E1I1E1I1E1I1E1I",
    "1E1I1E1I1E1I1E1I1E1I1E1I1E1I1E5I1E1Y1I1E1I2E2I1fE1cI1E1I1E1I1E1I1E1I1E1I1E1I1E1I1E1I1E1I1E",
    "1I1E1I1E1I1E1I1E1I1E1I1E1I1E1Z1L5K2I1E1I1E1I1E1I1E1I1E1I1E1I1E1I1E1I1E1I1E1I1E1I1E1I1E1I1E",
    "1I1E1I1E1I1E1I1E1I1E1I1E1I1E1I1E1I1E1I1E1I1E1I1E1I1E1I2E1I1E1I1E1I1E1I1E1I1E1I1E2I1E1I1E1I",
    "1E1I1E1I1E1I1E1I1E1I1E1I1E1I1E1I1E1I1E1I1E1I1E1I1E1I1E1I1E1I1E1I1E1I1E1I1E1I1E1I1E1I1E1I1E",
    "1I1E1I1E1I1E1I1E1I1E1I1E1I1E1I1E1I1E1I1E1I1E1I1E1I1E1I1E1I1E1I1E1I1E1I1E1I1E1I1E1I1E1I1E1I",
    "1E1BD1I12BD2F1U6E15U1Q1BD2Z2W1BD1L19Q1L1U1L2U1L2U1L1BD8GrBD4G4U2BDbB6Y3U2W1U2Z2LbU1B1U3GwF",
    "1GaLlMaU4G2L1G2rU1G1L7B1Z1L6F2L2Z1L4G2MaG3Z2G1UeBD1B1G1L1GuLrBD2G2hLbG1BDeMaGxL9F2Z1U3F1BD",
    "2L1W2GmL4F1L9F1L3F1L5BD2UfBD1GpL3BD2U1BD1GbBD5GoX1G7B2BD5L9G15F1LoB1LwJ1G1iL1J1L1G1J3L8J4L",
    "1J2G1L7GaL2U2MaU1F1GfL1J2BD1G8BD2G2BD2GmBD1G7BD1G1BD3G4BD2L1G1J3L4BD2J2BD2J2L1G1BD8J1BD4G2",
    "BD1G3L2BD2MaG2W2O6Z1W1G1U1L1BD2L2J1BD1G6BD4G2BD2GmBD1G7BD1G2BD1G2BD1G2BD2L1BD1J3L2BD4L2BD2",
    "L3BD3L1BD7G4BD1G1BD7MaL2G3L1U1BDaL2J1BD1G9BD1G3BD1GmBD1G7BD1G2BD1G5BD2L1G1J3L5BD1L2J1BD1J2",
    "L1BD2G1BDfG2L2BD2MaU1W1BD7G1L6BD1L1J2BD1G8BD2G2BD2GmBD1G7BD1G2BD1G5BD2L1G1J1L1J1L4BD2J2BD2",
    "J2L1BD7L2J1BD4G2BD1G3L2BD2MaZ1G1O6BDaL1G1BD1G6BD3G3BD1G4BD3G2BD1G1BD1G2BD3G2BD3G3BD3GcBD4J",
    "2L1J2BD3J3BD1J3L1BD2G1BD6J1BDeMaO3Z6W1Z1BD5L1J3L1G8BD1G3BD1GnBD1GgBD2L1G1L3J4BD1L3BD1L4BD7",
    "L2BD1G3BD1G2BD2G2L2BD2MaBD7U1O7Z1G1L1J2U1G8BD1G3BD1GnBD1GaBD1G5BD2L1G1J1L1J5BD1L1J2BD1J2L2",
    "BD7J2BD5G3BD1G2L2BD2MaBD1G2J1BDcL2J2G9BD1G3BD1G15L2G1J3L4BD1J3BD1J3L1G1Z1BD4G3J1O7G3L2BD2M",
    "aO9Z1G6BD1L1J2BD1GiBD3GoBD1G9BD1G1BD2G7BD3L1BD4J3L3BD1L1BD1J8BD6MaBD2J2U1BDcG1cL1G2L7BD4W1",
    "G6F1L8U1MaU2BD11G2BD1G1BD1G5BD1GoBD1G1BD1GaL1G2L9G1BD2G5BD1F1BD1L7BD1MaBD2G4BDwG1Z3UfZ1U1Z",
    "3L2Z6MaOaZ1L1Z1L1Z1L1V1R1V1R1J2G8BD1G10BD4LeJ1L5U1L2G5LbBD1L10BD1Z8L1Z6BD1Z2U5Z4U2BD11G17J",
    "2L4J1L6J1L2J2L2G1MaU6G6J2L2G4L3G1J3G2J7G3L4GdL1J2L2J6L1G1J1MaJ3L1Z2I12BD1I1BD5I1BD2E17U1F1",
    "E3G95BD1G4BD2G7BD1G1BD1G4BD2G15BD1G4BD2GxBD1G4BD2G7BD1G1BD1G4BD2GfBD1G1lBD1G4BD2G1vBD2L3U9",
    "OkBD3GgZaBD6I2eBD2E6BD2Q1Gh8Z1U1GhBC1GqV1R1BD3G23U3N3G8BD7GiL3J1BD9GjL2J1U2BD9GiL2BDcGdBD1",
    "G3BD1L2BDcG1gL2J1L7J8L1J2LbU3F1U3W1G1L1BD2MaBD6OaBD6U6Q1U4L3B1L1MaBD6GzF1G1hBD7G5L2GyL1G1B",
    "D5G1yBDaGvBD1L3J4L2J3BD4J2L1J6L3BD4Z1BD3U2MaGuBD2G5BDbG18BD4GqBD6MaO1BD3ZyGnL2J2L1BD2U2G1h",
    "J1L1J1L7BD1L1J1L1J2L8J6LaBD2L1MaBD6MaBD6U7F1U6BD2LeK1LvBD2LcBDkL4J1G1bL1J1L5J1L1J5L1J2G8BD",
    "1U2MaU7ZaL9Z9U3L2J1GuJ1L4J2L2J1L3G2MaG18L1J1L2J3L1J1L3J2BD8U4G10J8L8J2L2BD3U5MaBD3G3MaGuF6",
    "U2E9I1E1BD5I17BD2I3U8BD8L3U1LdJ1L7G4L1G6L1G2J1L2G1BD5E18F1rEdF1EyF11L1sI1E1I1E1I1E1I1E1I1E",
    "1I1E1I1E1I1E1I1E1I1E1I1E1I1E1I1E1I1E1I1E1I1E1I1E1I1E1I1E1I1E1I1E1I1E1I1E1I1E1I1E1I1E1I1E1I",
    "1E1I1E1I1E1I1E1I1E1I1E1I1E1I1E1I1E1I1E1I1E1I1E1I1E1I1E1I1E1I1E1I1E1I1E1I1E1I1E1I1E1I1E1I1E",
    "1I1E1I1E1I1E1I1E1I1E1I1E1I1E1I1E1I1E1I1E1I1E1I1E1I1E1I1E1I1E1I1E1I1E1I1E1I1E1I1E1I1E1I1E1I",
    "1E1I1E1I1E9I1E1I1E1I1E1I1E1I1E1I1E1I1E1I1E1I1E1I1E1I1E1I1E1I1E1I1E1I1E1I1E1I1E1I1E1I1E1I1E",
    "1I1E1I1E1I1E1I1E1I1E1I1E1I1E1I1E1I1E1I1E1I1E1I1E1I1E1I1E1I1E1I1E1I1E1I1E1I1E1I1E1I1E1I1E1I",
    "1E1I1E1I1E1I1E1I1E1I1E1I1E9I8E6BD2I6BD2E8I8E8I8E6BD2I6BD2E8BD1I1BD1I1BD1I1BD1I1E8I8EeBD2E8",
    "H8E8H8E8H8E5BD1E2I4H1X1E1X3E3BD1E2I4H1X3E4BD2E2I4BD1X3E8I5X3BD2E3BD1E2I4H1X2BD1BCbB5Q6U2T1",
    "S1V1T2S1V1T1U8BA1BB1B5BC1U9T1S1U4P2U3Y1V1R1UbY1U1P1UaBC1B5BD1BaO1F1BD2O6Y3V1R1F1OaY3V1R1BD",
    "1FdBD3WyBDeLdK4L1K3LcBDfZ2I1Z4I1Z2E1I3E2I3E1Z1I1Z2Y1I5Z6I1Z1I1Z1I1Z1I4Z1E1I4E1G4E1Z2E2I2Y5",
    "I1E4Z1Y1Z2E1Z1OgNzI1E1N4O1Z2BD4Y5Z5Y2Z4Y1Z2Y1Z2Y1Z7Y1ZvY2Z2Y1Z1Y1ZvY7gZ8V1R1V1R1ZkY2Z7V1R1",
    "Z29Y1ZuYpZ14Y6Z20BDmZbBDlO1oZ26OmZ53Y1Z9Y1Z1iY8Z33Y1Z6wV1R1V1R1V1R1V1R1V1R1V1R1V1R1OuZ18Y5",
    "V1R1YvV1R1V1R1V1R1V1R1V1R1YgZ74Y3nV1R1V1R1V1R1V1R1V1R1V1R1V1R1V1R1V1R1V1R1V1R1Y1rV1R1V1R1Y",
    "wV1R1Y76Z1cYlZ2Y6Z13BD2Z3uI1cE1cI1E1I3E2I1E1I1E1I1E1I4E1I1E2I1E6F2I3E1I1E1I1E1I1E1I1E1I1E1",
    "I1E1I1E1I1E1I1E1I1E1I1E1I1E1I1E1I1E1I1E1I1E1I1E1I1E1I1E1I1E1I1E1I1E1I1E1I1E1I1E1I1E1I1E1I1",
    "E1I1E1I1E1I1E1I1E1I1E1I1E1I1E1I1E1I1E1I1E1I1E1I1E1I1E1I1E1I1E1I1E1I1E1I1E1I1E1I1E1I1E2Z6I1",
    "E1I1E1L3I1E1BD5U4O1U2E12BD1E1BD5E1BD2G1kBD7F1U1BDeL1GnBD9G7BD1G7BD1G7BD1G7BD1G7BD1G7BD1G7B",
    "D1G7BD1LwU2T1S1T1S1U3T1S1U1T1S1U9Q1U2Q1U1T1S1U2T1S1V1R1V1R1V1R1V1R1U5F1UaQ2U4Q1U1V1UdZ2U3V",
    "1R1V1R1V1R1V1R1Q1BDyZqBD1Z2hBDcZ5yBDqZgBC1U3Z1F1G1N1V1R1V1R1V1R1V1R1V1R1Z2V1R1V1R1V1R1V1R1",
    "Q1V1R2Z1N9L4J2Q1F5Z2N3F1G1U1Z2BD1G2eBD2L2X2F2G1Q1G2iU1F3G1BD5G17BD1G2mBD1Z2O4ZaGwZ12BD9Z1G",
    "gZvBD1OaZuO8Z1OfZwOaZ13OfZ8wG534Z1sGg7pF1GvrBD3Z1jBD9G14F6U2G7gF1U3GgMaG2BDkI1E1I1E1I1E1I1",
    "E1I1E1I1E1I1E1I1E1I1E1I1E1I1E1I1E1I1E1I1E1I1E1I1E1I1E1I1E1I1E1I1E1I1E1I1E1I1E1G1L1K3U1LaU1",
    "F1I1E1I1E1I1E1I1E1I1E1I1E1I1E1I1E1I1E1I1E1I1E1I1E1I1E1I1E1F2L2G1yNaL2U6BD8XnF9X2I1E1I1E1I1",
    "E1I1E1I1E1I1E1I1E3I1E1I1E1I1E1I1E1I1E1I1E1I1E1I1E1I1E1I1E1I1E1I1E1I1E1I1E1I1E1I1E1I1E1I1E1",
    "I1E1I1E1I1E1I1E1I1E1I1E1I1E1I1E1I1E1I1E1I1E1I1E1I1E1F1E8I1E1I1E1I2E1I1E1I1E1I1E1I1E1F1X2I1",
    "E1I1E1G1I1E1I1E3I1E1I1E1I1E1I1E1I1E1I1E1I1E1I1E1I1E1I1E1I5E1I5E1I1E1I1E1I1E1I1E1I1E1I1E1I1",
    "E1I4E1I1E1I2E1I1E1I1E1I1E1I1E1I1E1I1E1I1E1I1BDkF4I1E1G1F2E1G7L1G3L1G4L1GnJ2L2J1Z4L1BD3O6Z2",
    "W1Z1BD6G1gU4BD8J2G1eJgL2BD8U2MaBD6LiG6U3G1U1G2L1MaGsL8U2GnLbJ2BDbU1GtBD3L3J1G1bL1J2L4J2L2J",
    "3UdBD1F1MaBD4U2G5L1F1G9MaG5BD1G15L6J2L2J2L2BD9G3L1G8L1J1BD2MaBD2U4GgF1G6Z3G1J1L1J1G1eL1G1L",
    "3G2L2G5L2G1L1G1BDoG2F1U2GbJ1L2J2U2G1F2J1L1BDaG6BD2G6BD2G6BD9G7BD1G7BD1E17X1F4E9F1X2BD4E28G",
    "zJ2L1J2L1J2U1J1L1BD2MaBD6G8mcBDcGnBD4G1dBD4D1kwC4xsGa6BD2G2yBD12E7BDcE5BD5G1L1GaY1GdBD1G5B",
    "D1G1BD1G2BD1G2BD1G30XhZgGa3R1V1ZgG1sZ2G1iZ8BDwGcW1Z3LgU7V1R1U1BD6LgU1Q2P2V1R1V1R1V1R1V1R1V",
    "1R1V1R1V1R1V1R1U2V1R1U4P3U3BD1U4Q1V1R1V1R1V1R1U3Y1Q1Y3BD1U1W1U2BD4G5BD1G3rBD2B1BD1U3W1U3V1",
    "R1U1Y1U1Q1U2MaU2Y3U2IqV1U1R1X1P1X1EqV1Y1R1Y1V1R1U1V1R1U2GaF1G19F2GvBD3G6BD2G6BD2G6BD2G3BD3",
    "W2Y1X1Z1W2BD1Z1Y4Z2BDaB3Z2BD2GcBD1GqBD1GjBD1G2BD1GfBD2GeBDyG3fBD5U3BD4O19BD3Z9N1hO4ZhO2Z3B",
    "D1ZdBD3Z1BD1bZ19L1BD3mGtBD3G1dBDfL1OrBD4GwO4BD9GkN1G8N1BD5G12L5BD5GuBD1U1G10BD4G8U1N5BD16I",
    "14E14G26BD2MaBD6I10BD4E10BD4G14BD8G1gBDbU1IbBD1IfBD1I7BD1I2BD1EbBD1EfBD1E7BD1E2BD3G1gBDcG8",
    "nBD9GmBDaG8BDoF6BD1F16BD1F9BD1xG6BD2G1BD1G18BD1G2BD3G1BD2GnBD1U1O8GnZ2O7GvBD8O9BD1cGjBD1G2",
    "BD5O5GmO6BD3U1GqBD5U1GqBD12G1kBD4O2G2OgBD2O1aG1L3BD1L2BD5L4G4BD1G3BD1GtBD2L3BD4L1O9BD7U9BD",
    "7GtO2U1GtO3BDwG8Z1GsL2BD4O5U7BD9G1iBD3U7GmBD2O8GjBD5O8GiBD7U4BDcO7BD28G21BD1jI1fBDdE1fBD7O",
    "6G10L4BD8MaBD6MaG4F1G1ImBD3L5Q1F1EmBD8Y2BD5sOvBD1G16BD1L2Q1BD2G2BDgG3F1G2BD8U1Z8BDxL6GtOaG",
    "1BD8GmLbO4U5BDmGiL4U4BD12GlO7BDkGnBD9J1L1J1G1hLfU7BD4OkMaL1G2L2G1BD9L3J1G19J3L4J2L2U2B1U4L",
    "1BDaB1BD2GpBD7MaBD6L3G10L5J1L8BD1MaU4G1J2G1BD8GzL1U2G1BD9L2J1G1cJ3L9J2G4U4L4U1J1L1MaG1U1G1",
    "U3BD1OkBDbGiBD1GpJ3L3J2L1J1L2U6L1G2L1BD1qG7BD1G1BD1G4BD1GfBD1GaU1BD6G1bL1J3L8BD5MaBD6L2J2B",
    "D1G8BD2G2BD2GmBD1G7BD1G2BD1G5BD1L2G1J2L1J4BD2J2BD2J3BD2G1BD6J1BD5G5J2BD2L7BD3L5BDbGaBD1G1B",
    "D2G1BD1G12BD1G1J3L6BD1J1BD2J1BD1J4BD1J2L1J1L1G1L1G1U2BD1U2BD8L2BDtG1hJ3L8J2L3J1L1G4U5MaU2B",
    "D1U1L1G3BDuG1cJ3L6J1L1J4L2J1L2G2U1G1BD8MaBD4mG1bJ3L4BD2J4L2J1L2UnG4L2BDyG1cJ3L8J2L1J1L2U3G",
    "1BDbMaBD6UdBDjG17L1J1L1J2L6J1L1G1U1BD6MaBD6MkBDsGrBD2L1J1L1J2L4J1L5BD4MaO2U3Z1G7BD55G18J3L",
    "9J1L2U1BD2sIwEwMaO9BDcG8BD2G1BD2G8BD1G2BD1GoJ6BD1J2BD2L2J1L1G1J1G1J1L1U3BD9MaBD1yG8BD2G13J",
    "3L4BD2L2J4L1G1U1G1J1BDrG1LaG14L6J1G1L4U8L1BD8G1L6J2L3G1aLdJ1L2U3G1U5BDdG21BD7UaBD2eL1J1L3J",
    "1L1J1BD2gGxU1BDeMaBD6G9BD1G11J1L7BD1L6J1L1G1U5BDaMaOjBD3U2GuBD2LmBD1J1L7J1L2J1L2BD21G7BD1G",
    "2BD1G12L6BD3L1BD1L2BD1L7G1L1BD8MaBD6G6BD1G2BD1GwJ5BD1L2BD1J2L1J1L1G1BD7MaBD6G15F1G2BD4MaBD",
    "6uGjL2J2U2BD7L2G1J1GdBD1GyJ2L5BD3J2L1J1L1UdMaL1BD2dG1BDfOlZ8W4ZhBDdU1GpmBD2uN33BD1U5BDbG5g",
    "BD218G2pU2BDdGtsBgL1G6LfBDaG32zBD5Gg7BD5a1GuLcJ3L3MaBD1c6GftBD7GvBD1MaBD4U2G27BD1MaBD6GuBD",
    "2L5U1BDaG1cL7U5Z4F4U1Z1BDaMaBD1O7BD1GlBD5GjBDc0F3G14F2U3MaBD5iIwEwOnU4BD5IpBD2EpBD18G23BD4",
    "L1G1J1jBD7L4FdBD1sF2U1F1L1BDbJ2F2N3BD9G5p2BD15GwBD2pG37BD6ppF4BD1F7BD1F2BD1G83BDfG1BDtG3BD",
    "2G1BDeG4BD8Gb0BD1s4G2zBD5GdBD3G9BD7GaBD2Z1L2U1B4BD318Z6oMaZ3BD3Zc4BD6ZnBDfZgY1BDfL1aBD2LnB",
    "D9Z38BD1oZ6uBDaZ13BD2Z1oJ2L3Z3J6B8L8Z2L7ZuL4Z1pBDlZ1uL3Z1BD3eOkBDcOkBDcZ2fBD9OpBD3rIqEqIqE",
    "7BD1EiIqEqI1BD1I2BD2I1BD2I2BD2I4BD1I8E4BD1E1BD1E7BD1EbIqEqI2BD1I4BD2I8BD1I7BD1EqI2BD1I4BD1",
    "I5BD1I1BD3I7BD1EqIqEqIqEqIqEqIqEqIqEqIqEsBD2IpY1EpY1E6IpY1EpY1E6IpY1EpY1E6IpY1EpY1E6IpY1Ep",
    "Y1E6I1E1BD2M1eZe8L1jZ4L1eZ8L1ZeL1Z2U5BDfL5BD1LfBDuoEaG1EkBD6E6BD5xL7BD1LhBD2L7BD1L2BD1L5BD",
    "5F1qBDxL1BD34G19BD3L7F7BD2MaBD4G1Z1BD8wGuL1BDhG18L4MaBD5W1BDcwGrF1L4MaBD5yGuL2G1MaBD4U1BD5",
    "cGvBD1G3L1G2L1G7L2G5L1BD8G1F1BD68G7BD1G4BD1G2BD1GfBD1G5hBD2O9L7BD15IyEyL7F1BD4MaBD4U2BDltO",
    "1nZ1O3W1O4BD24O19Z1OfBD5eG4BD1GrBD1G2BD1G1BD2G1BD1GaBD1G4BD1G1BD1G1BD6G1BD4G1BD1G1BD1G1BD1",
    "G3BD1G2BD1G1BD2G1BD1G1BD1G1BD1G1BD1G1BD1G2BD1G1BD2G4BD1G7BD1G4BD1G4BD1G1BD1GaBD1GhBD5G3BD1",
    "G5BD1GhBD1gY2BD7iZ18BD4Z2sBDcZfBD2ZfBD1ZfBD1Z11BDaOdZ4hBD1kZtBDdZ18BD4Z9BD7Z2BDeZ6BD4aZ6zX",
    "5Zk9BD3ZhBD3ZdBD3Z62BD6ZcBD4Z1BDfZcBD4Z1kBD8ZaBD6Z14BD8ZuBD2ZcBD4Z2BDeY9BD13Z9kBD8ZeBD2ZdB",
    "D3ZbBD3Z1lBD1Z1BD4ZgBD2ZcBD4ZaBD7Z43BD1Z2kMaZ1BDslGwyoBDwG3dqBD2G4geBD2G5rlBDfGhaBD1wiGf2B",
    "D15uG3t7BD5G6juBDf5vrB1BDuB2oBD3kL6oBD1e6oC1ekeBD2C1eke"]

def categoryRuns : Runs := Runs.ofText categoryText

/-- The names of categories that take others together, with the labels of these. -/
def groupNames : List (List String × List Nat) :=
  [(["c", "other"], [0, 1, 29, 2]),
    (["l", "letter"], [4, 5, 6, 7, 8]),
    (["lc", "casedletter"], [4, 7, 8]),
    (["m", "mark", "combiningmark"], [9, 10, 11]),
    (["n", "number"], [12, 13, 14]),
    (["p", "punctuation", "punct"], [15, 16, 17, 18, 19, 20, 21]),
    (["s", "symbol"], [22, 23, 24, 25]),
    (["z", "separator"], [26, 27, 28])]

def unassignedLabel : Nat := 29

def surrogateLabel : Nat := 3

/-- The characters whose category has one of the labels.  Code points behind the table are
unassigned. -/
def categorySet (labels : List Nat) : CharSet :=
  let listed := categoryRuns.select labels.contains
  if labels.contains unassignedLabel then
    CharSet.union listed (CharSet.complement (categoryRuns.select fun _ => true))
  else listed

/-- The category with the given name, in small letters and without blanks, dashes and
underscores. -/
def category? (name : String) : Option CharSet :=
  if name = "any" then some CharSet.everything
  else if name = "ascii" then some [⟨0, 127⟩]
  else if name = "assigned" then some (CharSet.complement (categorySet [unassignedLabel]))
  else match groupNames.find? (·.1.contains name) with
    | some g => some (categorySet g.2)
    | none => ((categoryNames.findIdx? (·.contains name)).filter (· != surrogateLabel)).map fun i =>
      categorySet [i]

def digits : CharSet := (category? "nd").getD []

end HeatStack.Unicode
