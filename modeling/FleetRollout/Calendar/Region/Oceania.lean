import FleetRollout.Calendar.Region.America

set_option autoImplicit false

namespace FleetRollout.Calendar

def chatham : List Changeover :=
  [⟨1974, 1974, 11, .onOrAfter 1 0, .standard, 9900, 3600⟩,
    ⟨1975, 1975, 2, .last 0, .standard, 9900, 0⟩, ⟨1975, 1988, 10, .last 0, .standard, 9900, 3600⟩,
    ⟨1976, 1989, 3, .onOrAfter 1 0, .standard, 9900, 0⟩,
    ⟨1989, 1989, 10, .onOrAfter 8 0, .standard, 9900, 3600⟩,
    ⟨1990, 2006, 10, .onOrAfter 1 0, .standard, 9900, 3600⟩,
    ⟨1990, 2007, 3, .onOrAfter 15 0, .standard, 9900, 0⟩,
    ⟨2007, 2099, 9, .last 0, .standard, 9900, 3600⟩,
    ⟨2008, 2099, 4, .onOrAfter 1 0, .standard, 9900, 0⟩]

def cookIslands : List Changeover :=
  [⟨1978, 1978, 11, .date 12, .standard, 0, 1800⟩,
    ⟨1979, 1991, 3, .onOrAfter 1 0, .standard, -1800, 0⟩,
    ⟨1979, 1990, 10, .last 0, .standard, 0, 1800⟩]

def fiji : List Changeover :=
  [⟨1998, 1999, 11, .onOrAfter 1 0, .standard, 7200, 3600⟩,
    ⟨1999, 2000, 2, .last 0, .standard, 7200, 0⟩, ⟨2009, 2009, 11, .date 29, .standard, 7200, 3600⟩,
    ⟨2010, 2010, 3, .last 0, .standard, 7200, 0⟩,
    ⟨2010, 2013, 10, .onOrAfter 21 0, .standard, 7200, 3600⟩,
    ⟨2011, 2011, 3, .onOrAfter 1 0, .standard, 7200, 0⟩,
    ⟨2012, 2013, 1, .onOrAfter 18 0, .standard, 7200, 0⟩,
    ⟨2014, 2014, 1, .onOrAfter 18 0, .standard, 3600, 0⟩,
    ⟨2014, 2018, 11, .onOrAfter 1 0, .standard, 7200, 3600⟩,
    ⟨2015, 2021, 1, .onOrAfter 12 0, .standard, 7200, 0⟩,
    ⟨2019, 2019, 11, .onOrAfter 8 0, .standard, 7200, 3600⟩,
    ⟨2020, 2020, 12, .date 20, .standard, 7200, 3600⟩]

def guam : List Changeover :=
  [⟨1970, 1971, 4, .last 0, .standard, 7200, 3600⟩,
    ⟨1970, 1971, 9, .onOrAfter 1 0, .standard, 3600, 0⟩,
    ⟨1973, 1973, 12, .date 16, .standard, 7200, 3600⟩,
    ⟨1974, 1974, 2, .date 24, .standard, 3600, 0⟩, ⟨1976, 1976, 5, .date 26, .standard, 7200, 3600⟩,
    ⟨1976, 1976, 8, .date 22, .standard, 3660, 0⟩, ⟨1977, 1977, 4, .date 24, .standard, 7200, 3600⟩,
    ⟨1977, 1977, 8, .date 28, .standard, 3600, 0⟩]

def holidayIslands : List Changeover :=
  [⟨1992, 1993, 10, .last 0, .standard, 7200, 3600⟩,
    ⟨1993, 1994, 3, .onOrAfter 1 0, .standard, 7200, 0⟩]

def lordHowe : List Changeover :=
  [⟨1981, 1984, 10, .last 0, .standard, 7200, 3600⟩,
    ⟨1982, 1985, 3, .onOrAfter 1 0, .standard, 3600, 0⟩,
    ⟨1985, 1985, 10, .last 0, .standard, 7200, 1800⟩,
    ⟨1986, 1989, 3, .onOrAfter 15 0, .standard, 5400, 0⟩,
    ⟨1986, 1986, 10, .date 19, .standard, 7200, 1800⟩,
    ⟨1987, 1999, 10, .last 0, .standard, 7200, 1800⟩,
    ⟨1990, 1995, 3, .onOrAfter 1 0, .standard, 5400, 0⟩,
    ⟨1996, 2005, 3, .last 0, .standard, 5400, 0⟩, ⟨2000, 2000, 8, .last 0, .standard, 7200, 1800⟩,
    ⟨2001, 2007, 10, .last 0, .standard, 7200, 1800⟩,
    ⟨2006, 2006, 4, .onOrAfter 1 0, .standard, 5400, 0⟩,
    ⟨2007, 2007, 3, .last 0, .standard, 5400, 0⟩,
    ⟨2008, 2099, 4, .onOrAfter 1 0, .standard, 5400, 0⟩,
    ⟨2008, 2099, 10, .onOrAfter 1 0, .standard, 7200, 1800⟩]

def newCaledonia : List Changeover :=
  [⟨1977, 1978, 12, .onOrAfter 1 0, .standard, 0, 3600⟩,
    ⟨1978, 1979, 2, .date 27, .standard, -3600, 0⟩,
    ⟨1996, 1996, 12, .date 1, .standard, 7200, 3600⟩, ⟨1997, 1997, 3, .date 2, .standard, 7200, 0⟩]

def newSouthWales : List Changeover :=
  [⟨1971, 1985, 10, .last 0, .standard, 7200, 3600⟩, ⟨1972, 1972, 2, .date 27, .standard, 7200, 0⟩,
    ⟨1973, 1981, 3, .onOrAfter 1 0, .standard, 7200, 0⟩,
    ⟨1982, 1982, 4, .onOrAfter 1 0, .standard, 7200, 0⟩,
    ⟨1983, 1985, 3, .onOrAfter 1 0, .standard, 7200, 0⟩,
    ⟨1986, 1989, 3, .onOrAfter 15 0, .standard, 7200, 0⟩,
    ⟨1986, 1986, 10, .date 19, .standard, 7200, 3600⟩,
    ⟨1987, 1999, 10, .last 0, .standard, 7200, 3600⟩,
    ⟨1990, 1995, 3, .onOrAfter 1 0, .standard, 7200, 0⟩,
    ⟨1996, 2005, 3, .last 0, .standard, 7200, 0⟩, ⟨2000, 2000, 8, .last 0, .standard, 7200, 3600⟩,
    ⟨2001, 2007, 10, .last 0, .standard, 7200, 3600⟩,
    ⟨2006, 2006, 4, .onOrAfter 1 0, .standard, 7200, 0⟩,
    ⟨2007, 2007, 3, .last 0, .standard, 7200, 0⟩,
    ⟨2008, 2099, 4, .onOrAfter 1 0, .standard, 7200, 0⟩,
    ⟨2008, 2099, 10, .onOrAfter 1 0, .standard, 7200, 3600⟩]

def newZealand : List Changeover :=
  [⟨1974, 1974, 11, .onOrAfter 1 0, .standard, 7200, 3600⟩,
    ⟨1975, 1975, 2, .last 0, .standard, 7200, 0⟩, ⟨1975, 1988, 10, .last 0, .standard, 7200, 3600⟩,
    ⟨1976, 1989, 3, .onOrAfter 1 0, .standard, 7200, 0⟩,
    ⟨1989, 1989, 10, .onOrAfter 8 0, .standard, 7200, 3600⟩,
    ⟨1990, 2006, 10, .onOrAfter 1 0, .standard, 7200, 3600⟩,
    ⟨1990, 2007, 3, .onOrAfter 15 0, .standard, 7200, 0⟩,
    ⟨2007, 2099, 9, .last 0, .standard, 7200, 3600⟩,
    ⟨2008, 2099, 4, .onOrAfter 1 0, .standard, 7200, 0⟩]

def queensland : List Changeover :=
  [⟨1971, 1971, 10, .last 0, .standard, 7200, 3600⟩, ⟨1972, 1972, 2, .last 0, .standard, 7200, 0⟩,
    ⟨1989, 1991, 10, .last 0, .standard, 7200, 3600⟩,
    ⟨1990, 1992, 3, .onOrAfter 1 0, .standard, 7200, 0⟩]

def samoa : List Changeover :=
  [⟨2010, 2010, 9, .last 0, .standard, 0, 3600⟩,
    ⟨2011, 2011, 4, .onOrAfter 1 6, .standard, 10800, 0⟩,
    ⟨2011, 2011, 9, .last 6, .standard, 10800, 3600⟩,
    ⟨2012, 2021, 4, .onOrAfter 1 0, .standard, 10800, 0⟩,
    ⟨2012, 2020, 9, .last 0, .standard, 10800, 3600⟩]

def southAustralia : List Changeover :=
  [⟨1971, 1985, 10, .last 0, .standard, 7200, 3600⟩,
    ⟨1986, 1986, 10, .date 19, .standard, 7200, 3600⟩,
    ⟨1987, 2007, 10, .last 0, .standard, 7200, 3600⟩, ⟨1972, 1972, 2, .date 27, .standard, 7200, 0⟩,
    ⟨1973, 1985, 3, .onOrAfter 1 0, .standard, 7200, 0⟩,
    ⟨1986, 1990, 3, .onOrAfter 15 0, .standard, 7200, 0⟩,
    ⟨1991, 1991, 3, .date 3, .standard, 7200, 0⟩, ⟨1992, 1992, 3, .date 22, .standard, 7200, 0⟩,
    ⟨1993, 1993, 3, .date 7, .standard, 7200, 0⟩, ⟨1994, 1994, 3, .date 20, .standard, 7200, 0⟩,
    ⟨1995, 2005, 3, .last 0, .standard, 7200, 0⟩, ⟨2006, 2006, 4, .date 2, .standard, 7200, 0⟩,
    ⟨2007, 2007, 3, .last 0, .standard, 7200, 0⟩,
    ⟨2008, 2099, 4, .onOrAfter 1 0, .standard, 7200, 0⟩,
    ⟨2008, 2099, 10, .onOrAfter 1 0, .standard, 7200, 3600⟩]

def tasmania : List Changeover :=
  [⟨1968, 1985, 10, .last 0, .standard, 7200, 3600⟩,
    ⟨1969, 1971, 3, .onOrAfter 8 0, .standard, 7200, 0⟩,
    ⟨1972, 1972, 2, .last 0, .standard, 7200, 0⟩,
    ⟨1973, 1981, 3, .onOrAfter 1 0, .standard, 7200, 0⟩,
    ⟨1982, 1983, 3, .last 0, .standard, 7200, 0⟩,
    ⟨1984, 1986, 3, .onOrAfter 1 0, .standard, 7200, 0⟩,
    ⟨1986, 1986, 10, .onOrAfter 15 0, .standard, 7200, 3600⟩,
    ⟨1987, 1990, 3, .onOrAfter 15 0, .standard, 7200, 0⟩,
    ⟨1987, 1987, 10, .onOrAfter 22 0, .standard, 7200, 3600⟩,
    ⟨1988, 1990, 10, .last 0, .standard, 7200, 3600⟩,
    ⟨1991, 1999, 10, .onOrAfter 1 0, .standard, 7200, 3600⟩,
    ⟨1991, 2005, 3, .last 0, .standard, 7200, 0⟩, ⟨2000, 2000, 8, .last 0, .standard, 7200, 3600⟩,
    ⟨2001, 2099, 10, .onOrAfter 1 0, .standard, 7200, 3600⟩,
    ⟨2006, 2006, 4, .onOrAfter 1 0, .standard, 7200, 0⟩,
    ⟨2007, 2007, 3, .last 0, .standard, 7200, 0⟩,
    ⟨2008, 2099, 4, .onOrAfter 1 0, .standard, 7200, 0⟩]

def tonga : List Changeover :=
  [⟨1999, 1999, 10, .date 7, .standard, 7200, 3600⟩, ⟨2000, 2000, 3, .date 19, .standard, 7200, 0⟩,
    ⟨2000, 2001, 11, .onOrAfter 1 0, .standard, 7200, 3600⟩,
    ⟨2001, 2002, 1, .last 0, .standard, 3600, 0⟩,
    ⟨2016, 2016, 11, .onOrAfter 1 0, .standard, 7200, 3600⟩,
    ⟨2017, 2017, 1, .onOrAfter 15 0, .standard, 7200, 0⟩]

def troll : List Changeover :=
  [⟨2005, 2099, 3, .last 0, .universal, 3600, 7200⟩, ⟨2004, 2099, 10, .last 0, .universal, 3600, 0⟩]

def vanuatu : List Changeover :=
  [⟨1973, 1973, 12, .date 22, .universal, 43200, 3600⟩,
    ⟨1974, 1974, 3, .date 30, .universal, 43200, 0⟩,
    ⟨1983, 1991, 9, .onOrAfter 22 6, .standard, 86400, 3600⟩,
    ⟨1984, 1991, 3, .onOrAfter 22 6, .standard, 82800, 0⟩,
    ⟨1992, 1993, 1, .onOrAfter 22 6, .standard, 82800, 0⟩,
    ⟨1992, 1992, 10, .onOrAfter 22 6, .standard, 86400, 3600⟩]

def victoria : List Changeover :=
  [⟨1971, 1985, 10, .last 0, .standard, 7200, 3600⟩, ⟨1972, 1972, 2, .last 0, .standard, 7200, 0⟩,
    ⟨1973, 1985, 3, .onOrAfter 1 0, .standard, 7200, 0⟩,
    ⟨1986, 1990, 3, .onOrAfter 15 0, .standard, 7200, 0⟩,
    ⟨1986, 1987, 10, .onOrAfter 15 0, .standard, 7200, 3600⟩,
    ⟨1988, 1999, 10, .last 0, .standard, 7200, 3600⟩,
    ⟨1991, 1994, 3, .onOrAfter 1 0, .standard, 7200, 0⟩,
    ⟨1995, 2005, 3, .last 0, .standard, 7200, 0⟩, ⟨2000, 2000, 8, .last 0, .standard, 7200, 3600⟩,
    ⟨2001, 2007, 10, .last 0, .standard, 7200, 3600⟩,
    ⟨2006, 2006, 4, .onOrAfter 1 0, .standard, 7200, 0⟩,
    ⟨2007, 2007, 3, .last 0, .standard, 7200, 0⟩,
    ⟨2008, 2099, 4, .onOrAfter 1 0, .standard, 7200, 0⟩,
    ⟨2008, 2099, 10, .onOrAfter 1 0, .standard, 7200, 3600⟩]

def westernAustralia : List Changeover :=
  [⟨1974, 1974, 10, .last 0, .standard, 7200, 3600⟩,
    ⟨1975, 1975, 3, .onOrAfter 1 0, .standard, 7200, 0⟩,
    ⟨1983, 1983, 10, .last 0, .standard, 7200, 3600⟩,
    ⟨1984, 1984, 3, .onOrAfter 1 0, .standard, 7200, 0⟩,
    ⟨1991, 1991, 11, .date 17, .standard, 7200, 3600⟩,
    ⟨1992, 1992, 3, .onOrAfter 1 0, .standard, 7200, 0⟩,
    ⟨2006, 2006, 12, .date 3, .standard, 7200, 3600⟩, ⟨2007, 2009, 3, .last 0, .standard, 7200, 0⟩,
    ⟨2007, 2008, 10, .last 0, .standard, 7200, 3600⟩]

def oceanicPlaces : List Place :=
  [⟨["Antarctica/Casey"], [(1255802400, ⟨28800, []⟩), (1267714800, ⟨39600, []⟩),
      (1319738400, ⟨28800, []⟩), (1329843600, ⟨39600, []⟩), (1477065600, ⟨28800, []⟩),
      (1520701200, ⟨39600, []⟩), (1538856000, ⟨28800, []⟩), (1552752000, ⟨39600, []⟩),
      (1570129200, ⟨28800, []⟩), (1583596800, ⟨39600, []⟩), (1601740860, ⟨28800, []⟩),
      (1615640400, ⟨39600, []⟩), (1633190460, ⟨28800, []⟩), (1647090000, ⟨39600, []⟩),
      (1664640060, ⟨28800, []⟩), (1678291200, ⟨39600, []⟩)], ⟨28800, []⟩⟩,
    ⟨["Antarctica/Davis"], [(1255806000, ⟨25200, []⟩), (1268251200, ⟨18000, []⟩),
      (1319742000, ⟨25200, []⟩), (1329854400, ⟨18000, []⟩)], ⟨25200, []⟩⟩,
    ⟨["Antarctica/Macquarie"], [(1270310400, ⟨36000, tasmania⟩), (1301760000, ⟨39600, []⟩)],
      ⟨36000, tasmania⟩⟩,
    ⟨["Antarctica/Mawson"], [(1255809600, ⟨21600, []⟩)], ⟨18000, []⟩⟩,
    ⟨["Antarctica/McMurdo", "Antarctica/South_Pole", "NZ", "Pacific/Auckland"], [],
      ⟨43200, newZealand⟩⟩,
    ⟨["Antarctica/Palmer"], [(389070000, ⟨-10800, argentina⟩), (1494730800, ⟨-14400, chile⟩)],
      ⟨-10800, []⟩⟩,
    ⟨["Antarctica/Rothera"], [(218246400, ⟨0, []⟩)], ⟨-10800, []⟩⟩,
    ⟨["Antarctica/Troll"], [], ⟨0, troll⟩⟩,
    ⟨["Antarctica/Vostok"], [(760035600, ⟨25200, []⟩), (783648000, ⟨0, []⟩),
      (1702839600, ⟨25200, []⟩)], ⟨18000, []⟩⟩,
    ⟨["Australia/ACT", "Australia/Canberra", "Australia/NSW", "Australia/Sydney"], [],
      ⟨36000, newSouthWales⟩⟩,
    ⟨["Australia/Adelaide", "Australia/South"], [], ⟨34200, southAustralia⟩⟩,
    ⟨["Australia/Brisbane", "Australia/Queensland"], [], ⟨36000, queensland⟩⟩,
    ⟨["Australia/Broken_Hill", "Australia/Yancowinna"], [(967307400, ⟨34200, newSouthWales⟩)],
      ⟨34200, southAustralia⟩⟩,
    ⟨["Australia/Currie", "Australia/Hobart", "Australia/Tasmania"], [], ⟨36000, tasmania⟩⟩,
    ⟨["Australia/Eucla"], [], ⟨31500, westernAustralia⟩⟩,
    ⟨["Australia/LHI", "Australia/Lord_Howe"], [(352216800, ⟨36000, []⟩)], ⟨37800, lordHowe⟩⟩,
    ⟨["Australia/Lindeman"], [(719942400, ⟨36000, queensland⟩)], ⟨36000, holidayIslands⟩⟩,
    ⟨["Australia/Melbourne", "Australia/Victoria"], [], ⟨36000, victoria⟩⟩,
    ⟨["Australia/Perth", "Australia/West"], [], ⟨28800, westernAustralia⟩⟩,
    ⟨["Chile/EasterIsland", "Pacific/Easter"], [(384922800, ⟨-25200, chile⟩)], ⟨-21600, chile⟩⟩,
    ⟨["Pacific/Apia"], [(1325239200, ⟨-39600, samoa⟩)], ⟨46800, samoa⟩⟩,
    ⟨["Pacific/Bougainville"], [(1419696000, ⟨36000, []⟩)], ⟨39600, []⟩⟩,
    ⟨["NZ-CHAT", "Pacific/Chatham"], [], ⟨45900, chatham⟩⟩,
    ⟨["Pacific/Efate"], [], ⟨39600, vanuatu⟩⟩,
    ⟨["Pacific/Enderbury", "Pacific/Kanton"], [(307627200, ⟨-43200, []⟩),
      (788871600, ⟨-39600, []⟩)], ⟨46800, []⟩⟩,
    ⟨["Pacific/Fakaofo"], [(1325242800, ⟨-39600, []⟩)], ⟨46800, []⟩⟩,
    ⟨["Pacific/Fiji"], [], ⟨43200, fiji⟩⟩,
    ⟨["Pacific/Galapagos"], [(504939600, ⟨-18000, []⟩)], ⟨-21600, ecuador⟩⟩,
    ⟨["Pacific/Guam", "Pacific/Saipan"], [], ⟨36000, guam⟩⟩,
    ⟨["Pacific/Kiritimati"], [(307622400, ⟨-38400, []⟩), (788868000, ⟨-36000, []⟩)], ⟨50400, []⟩⟩,
    ⟨["Pacific/Kosrae"], [(915105600, ⟨43200, []⟩)], ⟨39600, []⟩⟩,
    ⟨["Kwajalein", "Pacific/Kwajalein"], [(745934400, ⟨-43200, []⟩)], ⟨43200, []⟩⟩,
    ⟨["Pacific/Nauru"], [(287418600, ⟨41400, []⟩)], ⟨43200, []⟩⟩,
    ⟨["Pacific/Norfolk"], [(152029800, ⟨41400, []⟩), (162916200, ⟨45000, []⟩),
      (1443882600, ⟨41400, []⟩), (1570287600, ⟨39600, []⟩)], ⟨39600, newSouthWales⟩⟩,
    ⟨["Pacific/Noumea"], [], ⟨39600, newCaledonia⟩⟩,
    ⟨["Pacific/Pitcairn"], [(893665800, ⟨-30600, []⟩)], ⟨-28800, []⟩⟩,
    ⟨["Pacific/Rarotonga"], [(279714600, ⟨-37800, []⟩)], ⟨-36000, cookIslands⟩⟩,
    ⟨["Pacific/Tongatapu"], [], ⟨46800, tonga⟩⟩]

end FleetRollout.Calendar
