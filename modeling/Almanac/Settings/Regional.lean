/-!
# Week customs of regions

* `WeekCustom`: a first weekday and the least number of days of a first week.
* `WeekCustom.ofRegion`: the custom of a region, by its two-letter code.
-/

namespace Almanac

/-- Week settings to use where none are given. -/
structure WeekCustom where
  firstWeekday : Int
  minimumDays : Int
deriving DecidableEq

namespace WeekCustom

/-- Weeks from Sunday, a first week of at least one day. -/
def standard : WeekCustom := ⟨1, 1⟩

/-- Regions whose weeks begin on Saturday. -/
def saturdayRegions : List String :=
  ["AE", "AF", "BH", "DJ", "DZ", "EG", "IQ", "IR", "JO", "KW", "LY", "OM", "QA", "SD", "SY"]

/-- Regions whose weeks begin on Sunday. -/
def sundayRegions : List String :=
  ["AG", "AS", "BD", "BR", "BS", "BT", "BW", "BZ", "CA", "CN", "CO", "DM", "DO", "ET", "GT",
    "GU", "HK", "HN", "ID", "IL", "IN", "JM", "JP", "KE", "KH", "KR", "LA", "MH", "MM", "MO",
    "MT", "MX", "MZ", "NI", "NP", "PA", "PE", "PH", "PK", "PR", "PT", "PY", "SA", "SG", "SV",
    "TH", "TT", "TW", "UM", "US", "VE", "VI", "WS", "YE", "ZA", "ZW"]

/-- Regions whose first week has at least four days. -/
def fourDayRegions : List String :=
  ["AD", "AN", "AT", "AX", "BE", "BG", "CH", "CZ", "DE", "DK", "EE", "ES", "FI", "FJ", "FO",
    "FR", "GB", "GF", "GG", "GI", "GP", "GR", "HU", "IE", "IM", "IS", "IT", "JE", "LI", "LT",
    "LU", "MC", "MQ", "NL", "NO", "PL", "PT", "RE", "RU", "SE", "SJ", "SK", "SM", "VA"]

/-- The custom of a region. ASCII letters may be in either case; an unknown region begins its
weeks on Monday and counts a single day as a week. -/
def ofRegion (region : String) : WeekCustom :=
  let code := String.ofList (region.toList.map Char.toUpper)
  { firstWeekday :=
      if code ∈ saturdayRegions then 7 else if code ∈ sundayRegions then 1 else 2
    minimumDays := if code ∈ fourDayRegions then 4 else 1 }

end WeekCustom

end Almanac
