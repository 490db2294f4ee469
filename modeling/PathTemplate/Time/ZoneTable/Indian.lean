/-
# Zones named for the Indian Ocean

Key definitions: `indian`, the names of the zones with their records.
-/

namespace PathTemplate.Time.ZoneTable

/-- The records of the zones, by name. -/
def indian : List (String × String) := [
  ("Indian/Chagos",
    "17380:LMT 18000:+05 21600:+06|b-1988167780 c820436400|"),
  ("Indian/Maldives",
    "17640:LMT 17640:MMT 18000:+05|b-2840158440 c-315636840|"),
  ("Indian/Mauritius",
    "13800:LMT 14400:+04 18000:+05|b-1988164200 c403041600 b417034800 c1224972000 b1238274000|")]

end PathTemplate.Time.ZoneTable
