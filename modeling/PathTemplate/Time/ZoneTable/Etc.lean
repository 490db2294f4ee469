/-
# Zones of fixed offset

Key definitions: `etc`, the names of the zones with their records.
-/

namespace PathTemplate.Time.ZoneTable

/-- The records of the zones, by name. -/
def etc : List (String × String) := [
  ("Etc/GMT",
    "0:GMT||"),
  ("Etc/GMT+1",
    "-3600:-01||"),
  ("Etc/GMT+10",
    "-36000:-10||"),
  ("Etc/GMT+11",
    "-39600:-11||"),
  ("Etc/GMT+12",
    "-43200:-12||"),
  ("Etc/GMT+2",
    "-7200:-02||"),
  ("Etc/GMT+3",
    "-10800:-03||"),
  ("Etc/GMT+4",
    "-14400:-04||"),
  ("Etc/GMT+5",
    "-18000:-05||"),
  ("Etc/GMT+6",
    "-21600:-06||"),
  ("Etc/GMT+7",
    "-25200:-07||"),
  ("Etc/GMT+8",
    "-28800:-08||"),
  ("Etc/GMT+9",
    "-32400:-09||"),
  ("Etc/GMT-1",
    "3600:+01||"),
  ("Etc/GMT-10",
    "36000:+10||"),
  ("Etc/GMT-11",
    "39600:+11||"),
  ("Etc/GMT-12",
    "43200:+12||"),
  ("Etc/GMT-13",
    "46800:+13||"),
  ("Etc/GMT-14",
    "50400:+14||"),
  ("Etc/GMT-2",
    "7200:+02||"),
  ("Etc/GMT-3",
    "10800:+03||"),
  ("Etc/GMT-4",
    "14400:+04||"),
  ("Etc/GMT-5",
    "18000:+05||"),
  ("Etc/GMT-6",
    "21600:+06||"),
  ("Etc/GMT-7",
    "25200:+07||"),
  ("Etc/GMT-8",
    "28800:+08||"),
  ("Etc/GMT-9",
    "32400:+09||"),
  ("Etc/UTC",
    "0:UTC||")]

end PathTemplate.Time.ZoneTable
