import FleetRollout.Calendar.Zone

set_option autoImplicit false

namespace FleetRollout.Calendar

def albania : List Changeover :=
  [⟨1974, 1974, 5, .date 4, .standard, 0, 3600⟩, ⟨1974, 1974, 10, .date 2, .standard, -3600, 0⟩,
    ⟨1975, 1975, 5, .date 1, .standard, 0, 3600⟩, ⟨1975, 1975, 10, .date 2, .standard, -3600, 0⟩,
    ⟨1976, 1976, 5, .date 2, .standard, 0, 3600⟩, ⟨1976, 1976, 10, .date 3, .standard, -3600, 0⟩,
    ⟨1977, 1977, 5, .date 8, .standard, 0, 3600⟩, ⟨1977, 1977, 10, .date 2, .standard, -3600, 0⟩,
    ⟨1978, 1978, 5, .date 6, .standard, 0, 3600⟩, ⟨1978, 1978, 10, .date 1, .standard, -3600, 0⟩,
    ⟨1979, 1979, 5, .date 5, .standard, 0, 3600⟩, ⟨1979, 1979, 9, .date 30, .standard, -3600, 0⟩,
    ⟨1980, 1980, 5, .date 3, .standard, 0, 3600⟩, ⟨1980, 1980, 10, .date 4, .standard, -3600, 0⟩,
    ⟨1981, 1981, 4, .date 26, .standard, 0, 3600⟩, ⟨1981, 1981, 9, .date 27, .standard, -3600, 0⟩,
    ⟨1982, 1982, 5, .date 2, .standard, 0, 3600⟩, ⟨1982, 1982, 10, .date 3, .standard, -3600, 0⟩,
    ⟨1983, 1983, 4, .date 18, .standard, 0, 3600⟩, ⟨1983, 1983, 10, .date 1, .standard, -3600, 0⟩,
    ⟨1984, 1984, 4, .date 1, .standard, 0, 3600⟩]

def austria : List Changeover :=
  [⟨1980, 1980, 4, .date 6, .standard, 0, 3600⟩, ⟨1980, 1980, 9, .date 28, .standard, -3600, 0⟩]

def britain : List Changeover :=
  [⟨1972, 1980, 3, .onOrAfter 16 0, .standard, 7200, 3600⟩,
    ⟨1972, 1980, 10, .onOrAfter 23 0, .standard, 7200, 0⟩,
    ⟨1981, 1995, 3, .last 0, .universal, 3600, 3600⟩,
    ⟨1981, 1989, 10, .onOrAfter 23 0, .universal, 3600, 0⟩,
    ⟨1990, 1995, 10, .onOrAfter 22 0, .universal, 3600, 0⟩]

def bulgaria : List Changeover :=
  [⟨1979, 1979, 3, .date 31, .standard, 82800, 3600⟩, ⟨1979, 1979, 10, .date 1, .standard, 0, 0⟩,
    ⟨1980, 1982, 4, .onOrAfter 1 6, .standard, 82800, 3600⟩,
    ⟨1980, 1980, 9, .date 29, .standard, 0, 0⟩, ⟨1981, 1981, 9, .date 27, .standard, 3600, 0⟩]

def centralEurope : List Changeover :=
  [⟨1977, 1980, 4, .onOrAfter 1 0, .standard, 7200, 3600⟩,
    ⟨1977, 1977, 9, .last 0, .standard, 7200, 0⟩, ⟨1978, 1978, 10, .date 1, .standard, 7200, 0⟩,
    ⟨1979, 1995, 9, .last 0, .standard, 7200, 0⟩, ⟨1981, 2099, 3, .last 0, .standard, 7200, 3600⟩,
    ⟨1996, 2099, 10, .last 0, .standard, 7200, 0⟩]

def cyprus : List Changeover :=
  [⟨1975, 1975, 4, .date 13, .standard, 0, 3600⟩, ⟨1975, 1975, 10, .date 12, .standard, -3600, 0⟩,
    ⟨1976, 1976, 5, .date 15, .standard, 0, 3600⟩, ⟨1976, 1976, 10, .date 11, .standard, -3600, 0⟩,
    ⟨1977, 1980, 4, .onOrAfter 1 0, .standard, 0, 3600⟩,
    ⟨1977, 1977, 9, .date 25, .standard, -3600, 0⟩, ⟨1978, 1978, 10, .date 2, .standard, -3600, 0⟩,
    ⟨1979, 1997, 9, .last 0, .standard, -3600, 0⟩, ⟨1981, 1998, 3, .last 0, .standard, 0, 3600⟩]

def easternEurasia : List Changeover :=
  [⟨1979, 1995, 9, .last 0, .standard, -3600, 0⟩, ⟨1981, 2099, 3, .last 0, .standard, 0, 3600⟩,
    ⟨1996, 2099, 10, .last 0, .standard, -3600, 0⟩]

def europeanUnion : List Changeover :=
  [⟨1977, 1980, 4, .onOrAfter 1 0, .universal, 3600, 3600⟩,
    ⟨1977, 1977, 9, .last 0, .universal, 3600, 0⟩, ⟨1978, 1978, 10, .date 1, .universal, 3600, 0⟩,
    ⟨1979, 1995, 9, .last 0, .universal, 3600, 0⟩, ⟨1981, 2099, 3, .last 0, .universal, 3600, 3600⟩,
    ⟨1996, 2099, 10, .last 0, .universal, 3600, 0⟩]

def finland : List Changeover :=
  [⟨1981, 1982, 3, .last 0, .standard, 7200, 3600⟩, ⟨1981, 1982, 9, .last 0, .standard, 7200, 0⟩]

def france : List Changeover :=
  [⟨1976, 1976, 3, .date 28, .standard, 3600, 3600⟩, ⟨1976, 1976, 9, .date 26, .standard, 0, 0⟩]

def greece : List Changeover :=
  [⟨1975, 1975, 4, .date 12, .standard, 0, 3600⟩, ⟨1975, 1975, 11, .date 26, .standard, 0, 0⟩,
    ⟨1976, 1976, 4, .date 11, .standard, 7200, 3600⟩,
    ⟨1976, 1976, 10, .date 10, .standard, 7200, 0⟩,
    ⟨1977, 1978, 4, .onOrAfter 1 0, .standard, 7200, 3600⟩,
    ⟨1977, 1977, 9, .date 26, .standard, 7200, 0⟩, ⟨1978, 1978, 9, .date 24, .standard, 10800, 0⟩,
    ⟨1979, 1979, 4, .date 1, .standard, 32400, 3600⟩, ⟨1979, 1979, 9, .date 29, .standard, 3600, 0⟩,
    ⟨1980, 1980, 4, .date 1, .standard, 0, 3600⟩, ⟨1980, 1980, 9, .date 28, .standard, -3600, 0⟩]

def hungary : List Changeover :=
  [⟨1980, 1980, 4, .date 6, .standard, 0, 3600⟩, ⟨1980, 1980, 9, .date 28, .standard, 0, 0⟩,
    ⟨1981, 1983, 3, .last 0, .standard, 0, 3600⟩, ⟨1981, 1983, 9, .last 0, .standard, 0, 0⟩]

def italy : List Changeover :=
  [⟨1970, 1970, 5, .date 31, .standard, 0, 3600⟩, ⟨1970, 1970, 9, .last 0, .standard, 0, 0⟩,
    ⟨1971, 1972, 5, .onOrAfter 22 0, .standard, 0, 3600⟩, ⟨1971, 1971, 9, .last 0, .standard, 0, 0⟩,
    ⟨1972, 1972, 10, .date 1, .standard, 0, 0⟩, ⟨1973, 1973, 6, .date 3, .standard, 0, 3600⟩,
    ⟨1973, 1974, 9, .last 0, .standard, 0, 0⟩, ⟨1974, 1974, 5, .date 26, .standard, 0, 3600⟩,
    ⟨1975, 1975, 6, .date 1, .standard, 0, 3600⟩, ⟨1975, 1977, 9, .last 0, .standard, 0, 0⟩,
    ⟨1976, 1976, 5, .date 30, .standard, 0, 3600⟩,
    ⟨1977, 1979, 5, .onOrAfter 22 0, .standard, 0, 3600⟩,
    ⟨1978, 1978, 10, .date 1, .standard, 0, 0⟩, ⟨1979, 1979, 9, .date 30, .standard, 0, 0⟩]

def latvia : List Changeover :=
  [⟨1989, 1996, 3, .last 0, .standard, 7200, 3600⟩, ⟨1989, 1996, 9, .last 0, .standard, 7200, 0⟩]

def malta : List Changeover :=
  [⟨1973, 1973, 3, .date 31, .standard, 0, 3600⟩, ⟨1973, 1973, 9, .date 29, .standard, 0, 0⟩,
    ⟨1974, 1974, 4, .date 21, .standard, 0, 3600⟩, ⟨1974, 1974, 9, .date 16, .standard, 0, 0⟩,
    ⟨1975, 1979, 4, .onOrAfter 15 0, .standard, 7200, 3600⟩,
    ⟨1975, 1980, 9, .onOrAfter 15 0, .standard, 3600, 0⟩,
    ⟨1980, 1980, 3, .date 31, .standard, 7200, 3600⟩]

def moldova : List Changeover :=
  [⟨1997, 2099, 3, .last 0, .standard, 7200, 3600⟩, ⟨1997, 2099, 10, .last 0, .standard, 7200, 0⟩]

def portugal : List Changeover :=
  [⟨1947, 1966, 4, .onOrAfter 1 0, .standard, 7200, 3600⟩,
    ⟨1976, 1976, 9, .last 0, .standard, 0, 0⟩, ⟨1977, 1977, 3, .last 0, .standard, 0, 3600⟩,
    ⟨1977, 1977, 9, .last 0, .standard, 0, 0⟩,
    ⟨1978, 1980, 4, .onOrAfter 1 0, .standard, 3600, 3600⟩,
    ⟨1978, 1978, 10, .date 1, .standard, 3600, 0⟩, ⟨1979, 1980, 9, .last 0, .standard, 3600, 0⟩,
    ⟨1981, 1986, 3, .last 0, .standard, 0, 3600⟩, ⟨1981, 1985, 9, .last 0, .standard, 0, 0⟩]

def romania : List Changeover :=
  [⟨1979, 1979, 5, .date 27, .standard, 0, 3600⟩, ⟨1979, 1979, 9, .last 0, .standard, -3600, 0⟩,
    ⟨1980, 1980, 4, .date 5, .standard, 82800, 3600⟩, ⟨1980, 1980, 9, .last 0, .standard, 0, 0⟩,
    ⟨1991, 1993, 3, .last 0, .standard, 0, 3600⟩, ⟨1991, 1993, 9, .last 0, .standard, 0, 0⟩]

def russia : List Changeover :=
  [⟨1981, 1984, 4, .date 1, .standard, 0, 3600⟩, ⟨1981, 1983, 10, .date 1, .standard, -3600, 0⟩,
    ⟨1984, 1995, 9, .last 0, .standard, 7200, 0⟩, ⟨1985, 2010, 3, .last 0, .standard, 7200, 3600⟩,
    ⟨1996, 2010, 10, .last 0, .standard, 7200, 0⟩]

def spain : List Changeover :=
  [⟨1974, 1975, 4, .onOrAfter 12 6, .standard, 82800, 3600⟩,
    ⟨1974, 1975, 10, .onOrAfter 1 0, .standard, 0, 0⟩,
    ⟨1976, 1976, 3, .date 27, .standard, 82800, 3600⟩, ⟨1976, 1977, 9, .last 0, .standard, 0, 0⟩,
    ⟨1977, 1977, 4, .date 2, .standard, 82800, 3600⟩,
    ⟨1978, 1978, 4, .date 2, .standard, 7200, 3600⟩, ⟨1978, 1978, 10, .date 1, .standard, 7200, 0⟩]

def turkey : List Changeover :=
  [⟨1973, 1973, 6, .date 3, .standard, 3600, 3600⟩,
    ⟨1973, 1976, 10, .onOrAfter 31 0, .standard, 3600, 0⟩,
    ⟨1974, 1974, 3, .date 31, .standard, 7200, 3600⟩,
    ⟨1975, 1975, 3, .date 22, .standard, 7200, 3600⟩,
    ⟨1976, 1976, 3, .date 21, .standard, 7200, 3600⟩,
    ⟨1977, 1978, 4, .onOrAfter 1 0, .standard, 7200, 3600⟩,
    ⟨1977, 1977, 10, .onOrAfter 15 0, .standard, 3600, 0⟩,
    ⟨1978, 1978, 6, .date 29, .standard, -3600, 0⟩,
    ⟨1983, 1983, 7, .date 31, .standard, 7200, 3600⟩, ⟨1983, 1983, 10, .date 2, .standard, 3600, 0⟩,
    ⟨1985, 1985, 4, .date 20, .standard, 3600, 3600⟩, ⟨1985, 1985, 9, .date 28, .standard, 3600, 0⟩,
    ⟨1986, 1993, 3, .last 0, .standard, 3600, 3600⟩, ⟨1986, 1995, 9, .last 0, .standard, 3600, 0⟩,
    ⟨1994, 1994, 3, .date 20, .standard, 3600, 3600⟩,
    ⟨1995, 2006, 3, .last 0, .standard, 3600, 3600⟩, ⟨1996, 2006, 10, .last 0, .standard, 3600, 0⟩]

def westernEurope : List Changeover :=
  [⟨1977, 1980, 4, .onOrAfter 1 0, .standard, 3600, 3600⟩,
    ⟨1977, 1977, 9, .last 0, .standard, 3600, 0⟩, ⟨1978, 1978, 10, .date 1, .standard, 3600, 0⟩,
    ⟨1979, 1995, 9, .last 0, .standard, 3600, 0⟩, ⟨1981, 2099, 3, .last 0, .standard, 3600, 3600⟩]

def europeanPlaces : List Place :=
  [⟨["Arctic/Longyearbyen", "Atlantic/Jan_Mayen", "Europe/Berlin", "Europe/Copenhagen",
      "Europe/Oslo", "Europe/Stockholm"], [(323830800, ⟨3600, []⟩)], ⟨3600, centralEurope⟩⟩,
    ⟨["Asia/Istanbul", "Europe/Istanbul", "Turkey"], [(267915600, ⟨7200, turkey⟩),
      (468111600, ⟨10800, turkey⟩), (1174784400, ⟨7200, turkey⟩),
      (1301187600, ⟨7200, europeanUnion⟩), (1301274000, ⟨7200, []⟩),
      (1396141200, ⟨7200, europeanUnion⟩), (1396227600, ⟨7200, []⟩),
      (1445734800, ⟨7200, europeanUnion⟩), (1446944400, ⟨10800, []⟩),
      (1477789200, ⟨7200, europeanUnion⟩)], ⟨10800, []⟩⟩,
    ⟨["Asia/Nicosia", "Europe/Nicosia"], [(909277200, ⟨7200, cyprus⟩)], ⟨7200, europeanUnion⟩⟩,
    ⟨["Atlantic/Azores"], [(386125200, ⟨-3600, []⟩), (725421600, ⟨-3600, europeanUnion⟩),
      (740278800, ⟨0, europeanUnion⟩)], ⟨-3600, europeanUnion⟩⟩,
    ⟨["Atlantic/Canary"], [(323827200, ⟨0, []⟩), (338950800, ⟨3600, []⟩)], ⟨0, europeanUnion⟩⟩,
    ⟨["Atlantic/Faeroe", "Atlantic/Faroe"], [(354675600, ⟨0, []⟩)], ⟨0, europeanUnion⟩⟩,
    ⟨["Atlantic/Madeira"], [(386726400, ⟨0, []⟩), (528253200, ⟨0, portugal⟩)], ⟨0, europeanUnion⟩⟩,
    ⟨["CET", "Europe/Amsterdam", "Europe/Brussels", "Europe/Luxembourg", "MET"], [],
      ⟨3600, centralEurope⟩⟩,
    ⟨["Europe/Andorra"], [(481078800, ⟨3600, []⟩)], ⟨3600, europeanUnion⟩⟩,
    ⟨["Europe/Astrakhan"], [(606866400, ⟨14400, russia⟩), (622594800, ⟨14400, []⟩),
      (686098800, ⟨10800, russia⟩), (717548400, ⟨14400, []⟩), (1301180400, ⟨10800, russia⟩),
      (1414274400, ⟨14400, []⟩), (1459033200, ⟨10800, []⟩)], ⟨14400, []⟩⟩,
    ⟨["EET", "Europe/Athens"], [(354675600, ⟨7200, greece⟩)], ⟨7200, europeanUnion⟩⟩,
    ⟨["Eire", "Europe/Belfast", "Europe/Dublin", "Europe/Guernsey", "Europe/Isle_of_Man",
      "Europe/Jersey", "Europe/London", "GB", "GB-Eire"], [(57722400, ⟨3600, []⟩),
      (828234000, ⟨0, britain⟩)], ⟨0, europeanUnion⟩⟩,
    ⟨["Europe/Belgrade", "Europe/Ljubljana", "Europe/Podgorica", "Europe/Sarajevo", "Europe/Skopje",
      "Europe/Zagreb"], [(417574800, ⟨3600, []⟩)], ⟨3600, centralEurope⟩⟩,
    ⟨["Europe/Bratislava", "Europe/Prague"], [(291776400, ⟨3600, []⟩)], ⟨3600, centralEurope⟩⟩,
    ⟨["Europe/Bucharest"], [(354672000, ⟨7200, romania⟩), (670370400, ⟨7200, centralEurope⟩),
      (764719200, ⟨7200, romania⟩), (859672800, ⟨7200, easternEurasia⟩)], ⟨7200, europeanUnion⟩⟩,
    ⟨["Europe/Budapest"], [(449024400, ⟨3600, hungary⟩)], ⟨3600, centralEurope⟩⟩,
    ⟨["Europe/Busingen", "Europe/Vaduz", "Europe/Zurich"], [(354675600, ⟨3600, []⟩)],
      ⟨3600, europeanUnion⟩⟩,
    ⟨["Europe/Chisinau", "Europe/Tiraspol"], [(641944800, ⟨10800, russia⟩),
      (701820000, ⟨7200, russia⟩), (859672800, ⟨7200, easternEurasia⟩)], ⟨7200, moldova⟩⟩,
    ⟨["Europe/Gibraltar"], [(386125200, ⟨3600, []⟩)], ⟨3600, europeanUnion⟩⟩,
    ⟨["Europe/Helsinki", "Europe/Mariehamn"], [(417574800, ⟨7200, finland⟩)],
      ⟨7200, europeanUnion⟩⟩,
    ⟨["Europe/Kaliningrad"], [(606870000, ⟨10800, russia⟩), (622598400, ⟨10800, []⟩),
      (1301184000, ⟨7200, russia⟩), (1414278000, ⟨10800, []⟩)], ⟨7200, []⟩⟩,
    ⟨["Europe/Kiev", "Europe/Kyiv", "Europe/Uzhgorod", "Europe/Zaporozhye"],
      [(646783200, ⟨10800, russia⟩), (686102400, ⟨10800, []⟩), (846374400, ⟨7200, centralEurope⟩)],
      ⟨7200, europeanUnion⟩⟩,
    ⟨["Europe/Kirov"], [(606866400, ⟨14400, russia⟩), (622594800, ⟨14400, []⟩),
      (686098800, ⟨10800, russia⟩), (717548400, ⟨14400, []⟩), (1301180400, ⟨10800, russia⟩),
      (1414274400, ⟨14400, []⟩)], ⟨10800, []⟩⟩,
    ⟨["Europe/Lisbon", "Portugal", "WET"], [(512524800, ⟨0, portugal⟩),
      (717555600, ⟨0, europeanUnion⟩), (828234000, ⟨3600, europeanUnion⟩)], ⟨0, europeanUnion⟩⟩,
    ⟨["Europe/Madrid"], [(291776400, ⟨3600, spain⟩)], ⟨3600, europeanUnion⟩⟩,
    ⟨["Europe/Malta"], [(102380400, ⟨3600, italy⟩), (354675600, ⟨3600, malta⟩)],
      ⟨3600, europeanUnion⟩⟩,
    ⟨["Europe/Minsk"], [(638319600, ⟨10800, russia⟩), (686102400, ⟨10800, []⟩),
      (1301184000, ⟨7200, russia⟩)], ⟨10800, []⟩⟩,
    ⟨["Europe/Monaco", "Europe/Paris"], [(228877200, ⟨3600, france⟩)], ⟨3600, europeanUnion⟩⟩,
    ⟨["Europe/Moscow", "W-SU"], [(670374000, ⟨10800, russia⟩), (686102400, ⟨10800, []⟩),
      (695779200, ⟨7200, []⟩), (1301180400, ⟨10800, russia⟩), (1414274400, ⟨14400, []⟩)],
      ⟨10800, []⟩⟩,
    ⟨["Europe/Riga"], [(606870000, ⟨10800, russia⟩), (622598400, ⟨10800, []⟩),
      (859683600, ⟨7200, latvia⟩), (954032400, ⟨7200, europeanUnion⟩), (985482000, ⟨7200, []⟩)],
      ⟨7200, europeanUnion⟩⟩,
    ⟨["Europe/Rome", "Europe/San_Marino", "Europe/Vatican"], [(323830800, ⟨3600, italy⟩)],
      ⟨3600, centralEurope⟩⟩,
    ⟨["Europe/Samara"], [(606866400, ⟨14400, russia⟩), (622594800, ⟨14400, []⟩),
      (670374000, ⟨10800, russia⟩), (687916800, ⟨10800, []⟩), (1269727200, ⟨14400, russia⟩),
      (1288479600, ⟨14400, []⟩), (1301180400, ⟨10800, []⟩)], ⟨14400, []⟩⟩,
    ⟨["Europe/Saratov"], [(575416800, ⟨14400, russia⟩), (591145200, ⟨14400, []⟩),
      (686098800, ⟨10800, russia⟩), (717548400, ⟨14400, []⟩), (1301180400, ⟨10800, russia⟩),
      (1414274400, ⟨14400, []⟩), (1480806000, ⟨10800, []⟩)], ⟨14400, []⟩⟩,
    ⟨["Europe/Simferopol"], [(638319600, ⟨10800, russia⟩), (646786800, ⟨10800, []⟩),
      (701827200, ⟨7200, []⟩), (767739600, ⟨7200, centralEurope⟩), (828219600, ⟨10800, russia⟩),
      (846374400, ⟨14400, []⟩), (877827600, ⟨10800, []⟩), (1396137600, ⟨7200, europeanUnion⟩),
      (1414274400, ⟨14400, []⟩)], ⟨10800, []⟩⟩,
    ⟨["Europe/Sofia"], [(401846400, ⟨7200, bulgaria⟩), (670370400, ⟨7200, centralEurope⟩),
      (859672800, ⟨7200, easternEurasia⟩)], ⟨7200, europeanUnion⟩⟩,
    ⟨["Europe/Tallinn"], [(606870000, ⟨10800, russia⟩), (622598400, ⟨10800, []⟩),
      (909273600, ⟨7200, centralEurope⟩), (954032400, ⟨7200, europeanUnion⟩),
      (1017536400, ⟨7200, []⟩)], ⟨7200, europeanUnion⟩⟩,
    ⟨["Europe/Tirane"], [(465354000, ⟨3600, albania⟩)], ⟨3600, europeanUnion⟩⟩,
    ⟨["Europe/Ulyanovsk"], [(606866400, ⟨14400, russia⟩), (622594800, ⟨14400, []⟩),
      (670374000, ⟨10800, russia⟩), (686102400, ⟨10800, []⟩), (695779200, ⟨7200, []⟩),
      (1301180400, ⟨10800, russia⟩), (1414274400, ⟨14400, []⟩), (1459033200, ⟨10800, []⟩)],
      ⟨14400, []⟩⟩,
    ⟨["Europe/Vienna"], [(354675600, ⟨3600, austria⟩)], ⟨3600, centralEurope⟩⟩,
    ⟨["Europe/Vilnius"], [(606870000, ⟨10800, russia⟩), (622598400, ⟨10800, []⟩),
      (891129600, ⟨7200, russia⟩), (909277200, ⟨7200, []⟩), (941331600, ⟨3600, centralEurope⟩),
      (1048986000, ⟨7200, []⟩)], ⟨7200, europeanUnion⟩⟩,
    ⟨["Europe/Volgograd"], [(575416800, ⟨14400, russia⟩), (591145200, ⟨14400, []⟩),
      (686098800, ⟨10800, russia⟩), (717548400, ⟨14400, []⟩), (1301180400, ⟨10800, russia⟩),
      (1414274400, ⟨14400, []⟩), (1540681200, ⟨10800, []⟩), (1609020000, ⟨14400, []⟩)],
      ⟨10800, []⟩⟩,
    ⟨["Europe/Warsaw", "Poland"], [(575424000, ⟨3600, westernEurope⟩)], ⟨3600, centralEurope⟩⟩]

end FleetRollout.Calendar
