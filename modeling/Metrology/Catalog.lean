import Metrology.Marker

/-!
# Predefined markers

The catalog holds the usual units of each dimension under their names.  A ladder is a family of
multiples of one base unit, written with generated names; the other units are built from these by
products, quotients, powers and scales, most of them with a symbol of their own.
-/

namespace Metrology

/-- A marker with the name it is found under. -/
structure CatalogEntry where
  name : String
  marker : Marker

namespace Catalog

/-- Multiples of the coherent unit of a base quantity. -/
def ladder (b : Base) (l : List (String × Rational)) : List CatalogEntry :=
  l.map fun (name, a) => ⟨name, { unit := .ofBase b a }⟩

/-- A multiple of the coherent unit of a base quantity, under its generated name. -/
def multiple (b : Base) (a : Rational) : Marker := { unit := .ofBase b a }

/-- A rational multiple of a marker, under a symbol of its own. -/
def rescaled (m : Marker) (a : Rational) (symbol : String)
    (h : (m.unit.withGlobal a).isOk = true := by decide +kernel) : Marker :=
  { unit := (m.unit.withGlobal a).get h, symbol := some symbol }

/-- A real multiple of a marker, under a symbol of its own. -/
def real (m : Marker) (x : Float) (symbol : String) : Marker :=
  { unit := m.unit.withFactor x, symbol := some symbol }

/-- The marker under a symbol of its own. -/
def named (m : Marker) (symbol : String) : Marker := { m with symbol := some symbol }

/-! ## Length, area and volume -/

/-- The coherent unit of length. -/
def meter : Marker := multiple (.si .length) .one

/-- A tenth of a meter. -/
def decimeter : Marker := multiple (.si .length) .deci

/-- A thousand meters. -/
def kilometer : Marker := multiple (.si .length) .kilo

/-- A tenth of a nanometer. -/
def angstrom : Marker := multiple (.si .length) .angstrom

/-- The coherent unit of area. -/
def squareMeter : Marker := (meter.pow (.wrap .i32 2)).get

/-- The coherent unit of volume. -/
def cubicMeter : Marker := (meter.pow (.wrap .i32 3)).get

/-- A cubic decimeter, under its symbol. -/
def liter : Marker := named (decimeter.pow (.wrap .i32 3)).get "l"

/-- The units of length, area and volume. -/
def lengths : List CatalogEntry :=
  ladder (.si .length)
    [("Kilometer", .kilo), ("Meter", .one), ("Decimeter", .deci), ("Centimeter", .centi),
      ("Millimeter", .milli), ("Micrometer", .micro), ("Nanometer", .nano), ("Picometer", .pico),
      ("Femtometer", .femto), ("Angstrom", .angstrom)] ++
  [⟨"SquareMeter", squareMeter⟩, ⟨"CubicMeter", cubicMeter⟩, ⟨"Liter", liter⟩]

/-! ## Mass -/

/-- The coherent unit of mass. -/
def kilogram : Marker := multiple (.si .mass) .one

/-- The units of mass. -/
def masses : List CatalogEntry :=
  ⟨"Tonne", named (multiple (.si .mass) .kilo) "t"⟩ ::
  ladder (.si .mass)
    [("Kilogram", .one), ("Gram", .milli), ("Milligram", .micro), ("Microgram", .nano),
      ("Nanogram", .pico), ("Picogram", .femto)] ++
  [⟨"AtomicMassUnit", real kilogram 1.66053906660e-27 "u"⟩]

/-! ## Time -/

/-- The coherent unit of time. -/
def second : Marker := multiple (.si .time) .one

/-- 3600 seconds, under a name of its own. -/
def hour : Marker := multiple (.si .time) .hour

/-- The units of time. -/
def times : List CatalogEntry :=
  ladder (.si .time)
    [("Year", .year), ("Day", .day), ("Hour", .hour), ("Minute", .minute), ("Second", .one),
      ("Millisecond", .milli), ("Microsecond", .micro), ("Nanosecond", .nano),
      ("Picosecond", .pico), ("Femtosecond", .femto)]

/-! ## The other base quantities -/

/-- The units of electric current. -/
def currents : List CatalogEntry :=
  ladder (.si .current)
    [("Ampere", .one), ("Milliampere", .milli), ("Microampere", .micro), ("Nanoampere", .nano),
      ("Picoampere", .pico), ("Femtoampere", .femto)]

/-- The units of temperature. -/
def temperatures : List CatalogEntry :=
  ladder (.si .temperature)
    [("Kelvin", .one), ("Millikelvin", .milli), ("Microkelvin", .micro), ("Nanokelvin", .nano),
      ("Picokelvin", .pico), ("Femtokelvin", .femto)]

/-- The coherent unit of the amount of substance. -/
def mole : Marker := multiple (.si .amount) .one

/-- The units of the amount of substance. -/
def amounts : List CatalogEntry :=
  ladder (.si .amount)
    [("Mole", .one), ("Millimole", .milli), ("Micromole", .micro), ("Nanomole", .nano),
      ("Picomole", .pico)]

/-- The units of luminous intensity. -/
def luminousIntensities : List CatalogEntry :=
  ladder (.si .luminous)
    [("Candela", .one), ("Millicandela", .milli), ("Microcandela", .micro),
      ("Nanocandela", .nano), ("Picocandela", .pico), ("Femtocandela", .femto)]

/-! ## Angle -/

/-- Half of the full angle in radians. -/
def pi : Float := 3.141592653589793

/-- The coherent unit of angle. -/
def radian : Marker := multiple (.extra .angle) .one

/-- The units of angle. -/
def angles : List CatalogEntry :=
  [⟨"Radian", radian⟩, ⟨"Degree", real radian (pi / 180.0) "deg"⟩]

/-! ## Velocity and acceleration -/

/-- The coherent unit of velocity. -/
def meterPerSecond : Marker := (meter.quot second).get

/-- The coherent unit of acceleration. -/
def meterPerSecondSquared : Marker := (meter.quot (second.pow (.wrap .i32 2)).get).get

/-- The units of velocity and acceleration. -/
def velocities : List CatalogEntry :=
  [⟨"MeterPerSecond", meterPerSecond⟩, ⟨"KilometerPerHour", (kilometer.quot hour).get⟩,
    ⟨"AngstromPerSecond", (angstrom.quot second).get⟩,
    ⟨"SpeedOfLight", real meterPerSecond 299792458.0 "c"⟩,
    ⟨"MeterPerSecondSquared", meterPerSecondSquared⟩]

/-! ## Force, energy and power -/

/-- The coherent unit of force, under its symbol. -/
def newton : Marker := named (kilogram.prod meterPerSecondSquared).get "N"

/-- The units of force. -/
def forces : List CatalogEntry :=
  [⟨"Newton", newton⟩, ⟨"Kilonewton", rescaled newton .kilo "kN"⟩,
    ⟨"Meganewton", rescaled newton .mega "MN"⟩]

/-- The coherent unit of energy, under its symbol. -/
def joule : Marker := named (newton.prod meter).get "J"

/-- A thousand joules. -/
def kilojoule : Marker := rescaled joule .kilo "kJ"

/-- A real multiple of the joule. -/
def calorie : Marker := real joule 4.184 "cal"

/-- A thousand calories. -/
def kilocalorie : Marker := rescaled calorie .kilo "kcal"

/-- The energy of a kilocalorie in each mole. -/
def kilocaloriePerMole : Marker := (kilocalorie.quot mole).get

/-- The units of energy, of energy by amount and of force by amount. -/
def energies : List CatalogEntry :=
  [⟨"Joule", joule⟩, ⟨"Kilojoule", kilojoule⟩, ⟨"Megajoule", rescaled joule .mega "MJ"⟩,
    ⟨"Gigajoule", rescaled joule .giga "GJ"⟩, ⟨"Calorie", calorie⟩,
    ⟨"Kilocalorie", kilocalorie⟩, ⟨"KcalPerMol", kilocaloriePerMole⟩,
    ⟨"KjPerMol", (kilojoule.quot mole).get⟩,
    ⟨"KcalPerMolPerAngstrom", (kilocaloriePerMole.quot angstrom).get⟩]

/-- The coherent unit of power, under its symbol. -/
def watt : Marker := named (joule.quot second).get "W"

/-- The units of power. -/
def powers : List CatalogEntry :=
  [⟨"Watt", watt⟩, ⟨"Kilowatt", rescaled watt .kilo "kW"⟩,
    ⟨"Megawatt", rescaled watt .mega "MW"⟩, ⟨"Gigawatt", rescaled watt .giga "GW"⟩]

/-! ## Plain numbers -/

/-- The unit of plain numbers; it is written as nothing. -/
def unitless : Marker := { unit := .dimensionless, symbol := some "" }

/-- The units of plain numbers. -/
def numbers : List CatalogEntry :=
  [⟨"Unitless", unitless⟩, ⟨"Percent", rescaled unitless .centi "%"⟩,
    ⟨"PartsPerMillion", rescaled unitless .micro "ppm"⟩]

/-! ## The whole catalog -/

/-- Every entry of the catalog. -/
def all : List CatalogEntry :=
  lengths ++ masses ++ times ++ currents ++ temperatures ++ amounts ++ luminousIntensities ++
    angles ++ velocities ++ forces ++ energies ++ powers ++ numbers

/-- The marker of the name, if there is one. -/
def find? (name : String) : Option Marker := (all.find? (·.name == name)).map (·.marker)

end Catalog

end Metrology
