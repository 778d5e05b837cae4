import FleetRollout.Calendar.Region.Europe

set_option autoImplicit false

namespace FleetRollout.Calendar

def algeria : List Changeover :=
  [⟨1971, 1971, 4, .date 25, .standard, 82800, 3600⟩,
    ⟨1971, 1971, 9, .date 26, .standard, 82800, 0⟩, ⟨1977, 1977, 5, .date 6, .standard, 0, 3600⟩,
    ⟨1977, 1977, 10, .date 21, .standard, -3600, 0⟩,
    ⟨1978, 1978, 3, .date 24, .standard, 3600, 3600⟩, ⟨1978, 1978, 9, .date 22, .standard, 7200, 0⟩,
    ⟨1980, 1980, 4, .date 25, .standard, 0, 3600⟩, ⟨1980, 1980, 10, .date 31, .standard, 3600, 0⟩]

def egypt : List Changeover :=
  [⟨1959, 1981, 5, .date 1, .standard, 3600, 3600⟩, ⟨1966, 1994, 10, .date 1, .standard, 7200, 0⟩,
    ⟨1982, 1982, 7, .date 25, .standard, 3600, 3600⟩,
    ⟨1983, 1983, 7, .date 12, .standard, 3600, 3600⟩,
    ⟨1984, 1988, 5, .date 1, .standard, 3600, 3600⟩,
    ⟨1989, 1989, 5, .date 6, .standard, 3600, 3600⟩,
    ⟨1990, 1994, 5, .date 1, .standard, 3600, 3600⟩, ⟨1995, 2010, 4, .last 5, .standard, 0, 3600⟩,
    ⟨1995, 2005, 9, .last 4, .standard, 82800, 0⟩, ⟨2006, 2006, 9, .date 21, .standard, 82800, 0⟩,
    ⟨2007, 2007, 9, .onOrAfter 1 4, .standard, 82800, 0⟩,
    ⟨2008, 2008, 8, .last 4, .standard, 82800, 0⟩, ⟨2009, 2009, 8, .date 20, .standard, 82800, 0⟩,
    ⟨2010, 2010, 8, .date 10, .standard, 82800, 0⟩,
    ⟨2010, 2010, 9, .date 9, .standard, 86400, 3600⟩, ⟨2010, 2010, 9, .last 4, .standard, 82800, 0⟩,
    ⟨2014, 2014, 5, .date 15, .standard, 86400, 3600⟩,
    ⟨2014, 2014, 6, .date 26, .standard, 82800, 0⟩,
    ⟨2014, 2014, 7, .date 31, .standard, 86400, 3600⟩,
    ⟨2014, 2014, 9, .last 4, .standard, 82800, 0⟩, ⟨2023, 2099, 4, .last 5, .standard, 0, 3600⟩,
    ⟨2023, 2099, 10, .last 4, .standard, 82800, 0⟩]

def libya : List Changeover :=
  [⟨1982, 1984, 4, .date 1, .standard, 0, 3600⟩, ⟨1982, 1985, 10, .date 1, .standard, -3600, 0⟩,
    ⟨1985, 1985, 4, .date 6, .standard, 0, 3600⟩, ⟨1986, 1986, 4, .date 4, .standard, 0, 3600⟩,
    ⟨1986, 1986, 10, .date 3, .standard, -3600, 0⟩, ⟨1987, 1989, 4, .date 1, .standard, 0, 3600⟩,
    ⟨1987, 1989, 10, .date 1, .standard, -3600, 0⟩, ⟨1997, 1997, 4, .date 4, .standard, 0, 3600⟩,
    ⟨1997, 1997, 10, .date 4, .standard, -3600, 0⟩, ⟨2013, 2013, 3, .last 5, .standard, 3600, 3600⟩]

def morocco : List Changeover :=
  [⟨1974, 1974, 6, .date 24, .standard, 0, 3600⟩, ⟨1974, 1974, 9, .date 1, .standard, -3600, 0⟩,
    ⟨1976, 1977, 5, .date 1, .standard, 0, 3600⟩, ⟨1976, 1976, 8, .date 1, .standard, -3600, 0⟩,
    ⟨1977, 1977, 9, .date 28, .standard, -3600, 0⟩, ⟨1978, 1978, 6, .date 1, .standard, 0, 3600⟩,
    ⟨1978, 1978, 8, .date 4, .standard, -3600, 0⟩, ⟨2008, 2008, 6, .date 1, .standard, 0, 3600⟩,
    ⟨2008, 2008, 9, .date 1, .standard, -3600, 0⟩, ⟨2009, 2009, 6, .date 1, .standard, 0, 3600⟩,
    ⟨2009, 2009, 8, .date 21, .standard, -3600, 0⟩, ⟨2010, 2010, 5, .date 2, .standard, 0, 3600⟩,
    ⟨2010, 2010, 8, .date 8, .standard, -3600, 0⟩, ⟨2011, 2011, 4, .date 3, .standard, 0, 3600⟩,
    ⟨2011, 2011, 7, .date 31, .standard, -3600, 0⟩, ⟨2012, 2013, 4, .last 0, .standard, 7200, 3600⟩,
    ⟨2012, 2012, 7, .date 20, .standard, 7200, 0⟩, ⟨2012, 2012, 8, .date 20, .standard, 7200, 3600⟩,
    ⟨2012, 2012, 9, .date 30, .standard, 7200, 0⟩, ⟨2013, 2013, 7, .date 7, .standard, 7200, 0⟩,
    ⟨2013, 2013, 8, .date 10, .standard, 7200, 3600⟩, ⟨2013, 2017, 10, .last 0, .standard, 7200, 0⟩,
    ⟨2014, 2018, 3, .last 0, .standard, 7200, 3600⟩, ⟨2014, 2014, 6, .date 28, .standard, 7200, 0⟩,
    ⟨2014, 2014, 8, .date 2, .standard, 7200, 3600⟩, ⟨2015, 2015, 6, .date 14, .standard, 7200, 0⟩,
    ⟨2015, 2015, 7, .date 19, .standard, 7200, 3600⟩, ⟨2016, 2016, 6, .date 5, .standard, 7200, 0⟩,
    ⟨2016, 2016, 7, .date 10, .standard, 7200, 3600⟩, ⟨2017, 2017, 5, .date 21, .standard, 7200, 0⟩,
    ⟨2017, 2017, 7, .date 2, .standard, 7200, 3600⟩, ⟨2018, 2018, 5, .date 13, .standard, 7200, 0⟩,
    ⟨2018, 2018, 6, .date 17, .standard, 7200, 3600⟩, ⟨2019, 2019, 5, .date 5, .standard, 7200, 0⟩,
    ⟨2019, 2019, 6, .date 9, .standard, 7200, 3600⟩, ⟨2020, 2020, 4, .date 19, .standard, 7200, 0⟩,
    ⟨2020, 2020, 5, .date 31, .standard, 7200, 3600⟩, ⟨2021, 2021, 4, .date 11, .standard, 7200, 0⟩,
    ⟨2021, 2021, 5, .date 16, .standard, 7200, 3600⟩, ⟨2022, 2022, 3, .date 27, .standard, 7200, 0⟩,
    ⟨2022, 2022, 5, .date 8, .standard, 7200, 3600⟩, ⟨2023, 2023, 3, .date 19, .standard, 7200, 0⟩,
    ⟨2023, 2023, 4, .date 23, .standard, 7200, 3600⟩, ⟨2024, 2024, 3, .date 10, .standard, 7200, 0⟩,
    ⟨2024, 2024, 4, .date 14, .standard, 7200, 3600⟩, ⟨2025, 2025, 2, .date 23, .standard, 7200, 0⟩,
    ⟨2025, 2025, 4, .date 6, .standard, 7200, 3600⟩, ⟨2026, 2026, 2, .date 15, .standard, 7200, 0⟩,
    ⟨2026, 2026, 3, .date 22, .standard, 7200, 3600⟩, ⟨2027, 2027, 2, .date 7, .standard, 7200, 0⟩,
    ⟨2027, 2027, 3, .date 14, .standard, 7200, 3600⟩, ⟨2028, 2028, 1, .date 23, .standard, 7200, 0⟩,
    ⟨2028, 2028, 3, .date 5, .standard, 7200, 3600⟩, ⟨2029, 2029, 1, .date 14, .standard, 7200, 0⟩,
    ⟨2029, 2029, 2, .date 18, .standard, 7200, 3600⟩,
    ⟨2029, 2029, 12, .date 30, .standard, 7200, 0⟩,
    ⟨2030, 2030, 2, .date 10, .standard, 7200, 3600⟩,
    ⟨2030, 2030, 12, .date 22, .standard, 7200, 0⟩,
    ⟨2031, 2031, 1, .date 26, .standard, 7200, 3600⟩,
    ⟨2031, 2031, 12, .date 14, .standard, 7200, 0⟩,
    ⟨2032, 2032, 1, .date 18, .standard, 7200, 3600⟩,
    ⟨2032, 2032, 11, .date 28, .standard, 7200, 0⟩, ⟨2033, 2033, 1, .date 9, .standard, 7200, 3600⟩,
    ⟨2033, 2033, 11, .date 20, .standard, 7200, 0⟩,
    ⟨2033, 2033, 12, .date 25, .standard, 7200, 3600⟩,
    ⟨2034, 2034, 11, .date 5, .standard, 7200, 0⟩,
    ⟨2034, 2034, 12, .date 17, .standard, 7200, 3600⟩,
    ⟨2035, 2035, 10, .date 28, .standard, 7200, 0⟩,
    ⟨2035, 2035, 12, .date 9, .standard, 7200, 3600⟩,
    ⟨2036, 2036, 10, .date 19, .standard, 7200, 0⟩,
    ⟨2036, 2036, 11, .date 23, .standard, 7200, 3600⟩,
    ⟨2037, 2037, 10, .date 4, .standard, 7200, 0⟩,
    ⟨2037, 2037, 11, .date 15, .standard, 7200, 3600⟩,
    ⟨2038, 2038, 9, .date 26, .standard, 7200, 0⟩,
    ⟨2038, 2038, 10, .date 31, .standard, 7200, 3600⟩,
    ⟨2039, 2039, 9, .date 18, .standard, 7200, 0⟩,
    ⟨2039, 2039, 10, .date 23, .standard, 7200, 3600⟩, ⟨2040, 2040, 9, .date 2, .standard, 7200, 0⟩,
    ⟨2040, 2040, 10, .date 14, .standard, 7200, 3600⟩,
    ⟨2041, 2041, 8, .date 25, .standard, 7200, 0⟩, ⟨2041, 2041, 9, .date 29, .standard, 7200, 3600⟩,
    ⟨2042, 2042, 8, .date 10, .standard, 7200, 0⟩, ⟨2042, 2042, 9, .date 21, .standard, 7200, 3600⟩,
    ⟨2043, 2043, 8, .date 2, .standard, 7200, 0⟩, ⟨2043, 2043, 9, .date 13, .standard, 7200, 3600⟩,
    ⟨2044, 2044, 7, .date 24, .standard, 7200, 0⟩, ⟨2044, 2044, 8, .date 28, .standard, 7200, 3600⟩,
    ⟨2045, 2045, 7, .date 9, .standard, 7200, 0⟩, ⟨2045, 2045, 8, .date 20, .standard, 7200, 3600⟩,
    ⟨2046, 2046, 7, .date 1, .standard, 7200, 0⟩, ⟨2046, 2046, 8, .date 5, .standard, 7200, 3600⟩,
    ⟨2047, 2047, 6, .date 23, .standard, 7200, 0⟩, ⟨2047, 2047, 7, .date 28, .standard, 7200, 3600⟩,
    ⟨2048, 2048, 6, .date 7, .standard, 7200, 0⟩, ⟨2048, 2048, 7, .date 19, .standard, 7200, 3600⟩,
    ⟨2049, 2049, 5, .date 30, .standard, 7200, 0⟩, ⟨2049, 2049, 7, .date 4, .standard, 7200, 3600⟩,
    ⟨2050, 2050, 5, .date 15, .standard, 7200, 0⟩, ⟨2050, 2050, 6, .date 26, .standard, 7200, 3600⟩,
    ⟨2051, 2051, 5, .date 7, .standard, 7200, 0⟩, ⟨2051, 2051, 6, .date 18, .standard, 7200, 3600⟩,
    ⟨2052, 2052, 4, .date 28, .standard, 7200, 0⟩, ⟨2052, 2052, 6, .date 2, .standard, 7200, 3600⟩,
    ⟨2053, 2053, 4, .date 13, .standard, 7200, 0⟩, ⟨2053, 2053, 5, .date 25, .standard, 7200, 3600⟩,
    ⟨2054, 2054, 4, .date 5, .standard, 7200, 0⟩, ⟨2054, 2054, 5, .date 10, .standard, 7200, 3600⟩,
    ⟨2055, 2055, 3, .date 28, .standard, 7200, 0⟩, ⟨2055, 2055, 5, .date 2, .standard, 7200, 3600⟩,
    ⟨2056, 2056, 3, .date 12, .standard, 7200, 0⟩, ⟨2056, 2056, 4, .date 23, .standard, 7200, 3600⟩,
    ⟨2057, 2057, 3, .date 4, .standard, 7200, 0⟩, ⟨2057, 2057, 4, .date 8, .standard, 7200, 3600⟩,
    ⟨2058, 2058, 2, .date 17, .standard, 7200, 0⟩, ⟨2058, 2058, 3, .date 31, .standard, 7200, 3600⟩,
    ⟨2059, 2059, 2, .date 9, .standard, 7200, 0⟩, ⟨2059, 2059, 3, .date 23, .standard, 7200, 3600⟩,
    ⟨2060, 2060, 2, .date 1, .standard, 7200, 0⟩, ⟨2060, 2060, 3, .date 7, .standard, 7200, 3600⟩,
    ⟨2061, 2061, 1, .date 16, .standard, 7200, 0⟩, ⟨2061, 2061, 2, .date 27, .standard, 7200, 3600⟩,
    ⟨2062, 2062, 1, .date 8, .standard, 7200, 0⟩, ⟨2062, 2062, 2, .date 12, .standard, 7200, 3600⟩,
    ⟨2062, 2062, 12, .date 31, .standard, 7200, 0⟩, ⟨2063, 2063, 2, .date 4, .standard, 7200, 3600⟩,
    ⟨2063, 2063, 12, .date 16, .standard, 7200, 0⟩,
    ⟨2064, 2064, 1, .date 27, .standard, 7200, 3600⟩, ⟨2064, 2064, 12, .date 7, .standard, 7200, 0⟩,
    ⟨2065, 2065, 1, .date 11, .standard, 7200, 3600⟩,
    ⟨2065, 2065, 11, .date 22, .standard, 7200, 0⟩, ⟨2066, 2066, 1, .date 3, .standard, 7200, 3600⟩,
    ⟨2066, 2066, 11, .date 14, .standard, 7200, 0⟩,
    ⟨2066, 2066, 12, .date 26, .standard, 7200, 3600⟩,
    ⟨2067, 2067, 11, .date 6, .standard, 7200, 0⟩,
    ⟨2067, 2067, 12, .date 11, .standard, 7200, 3600⟩,
    ⟨2068, 2068, 10, .date 21, .standard, 7200, 0⟩,
    ⟨2068, 2068, 12, .date 2, .standard, 7200, 3600⟩,
    ⟨2069, 2069, 10, .date 13, .standard, 7200, 0⟩,
    ⟨2069, 2069, 11, .date 17, .standard, 7200, 3600⟩,
    ⟨2070, 2070, 10, .date 5, .standard, 7200, 0⟩, ⟨2070, 2070, 11, .date 9, .standard, 7200, 3600⟩,
    ⟨2071, 2071, 9, .date 20, .standard, 7200, 0⟩, ⟨2071, 2071, 11, .date 1, .standard, 7200, 3600⟩,
    ⟨2072, 2072, 9, .date 11, .standard, 7200, 0⟩,
    ⟨2072, 2072, 10, .date 16, .standard, 7200, 3600⟩,
    ⟨2073, 2073, 8, .date 27, .standard, 7200, 0⟩, ⟨2073, 2073, 10, .date 8, .standard, 7200, 3600⟩,
    ⟨2074, 2074, 8, .date 19, .standard, 7200, 0⟩, ⟨2074, 2074, 9, .date 30, .standard, 7200, 3600⟩,
    ⟨2075, 2075, 8, .date 11, .standard, 7200, 0⟩, ⟨2075, 2075, 9, .date 15, .standard, 7200, 3600⟩,
    ⟨2076, 2076, 7, .date 26, .standard, 7200, 0⟩, ⟨2076, 2076, 9, .date 6, .standard, 7200, 3600⟩,
    ⟨2077, 2077, 7, .date 18, .standard, 7200, 0⟩, ⟨2077, 2077, 8, .date 22, .standard, 7200, 3600⟩,
    ⟨2078, 2078, 7, .date 10, .standard, 7200, 0⟩, ⟨2078, 2078, 8, .date 14, .standard, 7200, 3600⟩,
    ⟨2079, 2079, 6, .date 25, .standard, 7200, 0⟩, ⟨2079, 2079, 8, .date 6, .standard, 7200, 3600⟩,
    ⟨2080, 2080, 6, .date 16, .standard, 7200, 0⟩, ⟨2080, 2080, 7, .date 21, .standard, 7200, 3600⟩,
    ⟨2081, 2081, 6, .date 1, .standard, 7200, 0⟩, ⟨2081, 2081, 7, .date 13, .standard, 7200, 3600⟩,
    ⟨2082, 2082, 5, .date 24, .standard, 7200, 0⟩, ⟨2082, 2082, 6, .date 28, .standard, 7200, 3600⟩,
    ⟨2083, 2083, 5, .date 16, .standard, 7200, 0⟩, ⟨2083, 2083, 6, .date 20, .standard, 7200, 3600⟩,
    ⟨2084, 2084, 4, .date 30, .standard, 7200, 0⟩, ⟨2084, 2084, 6, .date 11, .standard, 7200, 3600⟩,
    ⟨2085, 2085, 4, .date 22, .standard, 7200, 0⟩, ⟨2085, 2085, 5, .date 27, .standard, 7200, 3600⟩,
    ⟨2086, 2086, 4, .date 14, .standard, 7200, 0⟩, ⟨2086, 2086, 5, .date 19, .standard, 7200, 3600⟩,
    ⟨2087, 2087, 3, .date 30, .standard, 7200, 0⟩, ⟨2087, 2087, 5, .date 11, .standard, 7200, 3600⟩]

def namibia : List Changeover :=
  [⟨1994, 2017, 9, .onOrAfter 1 0, .standard, 7200, 3600⟩,
    ⟨1995, 2017, 4, .onOrAfter 1 0, .standard, 3600, 0⟩]

def spanishAfrica : List Changeover :=
  [⟨1974, 1974, 6, .date 24, .standard, 0, 3600⟩, ⟨1974, 1974, 9, .date 1, .standard, -3600, 0⟩,
    ⟨1976, 1977, 5, .date 1, .standard, 0, 3600⟩, ⟨1976, 1976, 8, .date 1, .standard, -3600, 0⟩,
    ⟨1977, 1977, 9, .date 28, .standard, -3600, 0⟩, ⟨1978, 1978, 6, .date 1, .standard, 0, 3600⟩,
    ⟨1978, 1978, 8, .date 4, .standard, -3600, 0⟩]

def sudan : List Changeover :=
  [⟨1970, 1970, 5, .date 1, .standard, 0, 3600⟩, ⟨1970, 1985, 10, .date 15, .standard, -3600, 0⟩,
    ⟨1971, 1971, 4, .date 30, .standard, 0, 3600⟩, ⟨1972, 1985, 4, .last 0, .standard, 0, 3600⟩]

def tunisia : List Changeover :=
  [⟨1977, 1977, 4, .date 30, .standard, 0, 3600⟩, ⟨1977, 1977, 9, .date 24, .standard, 0, 0⟩,
    ⟨1978, 1978, 5, .date 1, .standard, 0, 3600⟩, ⟨1978, 1978, 10, .date 1, .standard, 0, 0⟩,
    ⟨1988, 1988, 6, .date 1, .standard, 0, 3600⟩, ⟨1988, 1990, 9, .last 0, .standard, 0, 0⟩,
    ⟨1989, 1989, 3, .date 26, .standard, 0, 3600⟩, ⟨1990, 1990, 5, .date 1, .standard, 0, 3600⟩,
    ⟨2005, 2005, 5, .date 1, .standard, 0, 3600⟩, ⟨2005, 2005, 9, .date 30, .standard, 3600, 0⟩,
    ⟨2006, 2008, 3, .last 0, .standard, 7200, 3600⟩, ⟨2006, 2008, 10, .last 0, .standard, 7200, 0⟩]

def africanPlaces : List Place :=
  [⟨["Africa/Algiers"], [(246236400, ⟨0, algeria⟩), (309740400, ⟨3600, algeria⟩),
      (357523200, ⟨0, algeria⟩)], ⟨3600, []⟩⟩,
    ⟨["Africa/Bissau"], [(157770000, ⟨-3600, []⟩)], ⟨0, []⟩⟩,
    ⟨["Africa/Cairo", "Egypt"], [], ⟨7200, egypt⟩⟩,
    ⟨["Africa/Casablanca"], [(448243200, ⟨0, morocco⟩), (504918000, ⟨3600, []⟩)], ⟨0, morocco⟩⟩,
    ⟨["Africa/Ceuta"], [(448243200, ⟨0, spanishAfrica⟩), (512528400, ⟨3600, []⟩)],
      ⟨3600, europeanUnion⟩⟩,
    ⟨["Africa/El_Aaiun"], [(198291600, ⟨-3600, []⟩)], ⟨0, morocco⟩⟩,
    ⟨["Africa/Juba"], [(947930400, ⟨7200, sudan⟩), (1612126800, ⟨10800, []⟩)], ⟨7200, []⟩⟩,
    ⟨["Africa/Khartoum"], [(947930400, ⟨7200, sudan⟩), (1509483600, ⟨10800, []⟩)], ⟨7200, []⟩⟩,
    ⟨["Africa/Monrovia"], [(63593070, ⟨-2670, []⟩)], ⟨0, []⟩⟩,
    ⟨["Africa/Ndjamena"], [(308703600, ⟨3600, []⟩), (321314400, ⟨7200, []⟩)], ⟨3600, []⟩⟩,
    ⟨["Africa/Sao_Tome"], [(1514768400, ⟨0, []⟩), (1546304400, ⟨3600, []⟩)], ⟨0, []⟩⟩,
    ⟨["Africa/Tripoli", "Libya"], [(378684000, ⟨7200, []⟩), (641775600, ⟨3600, libya⟩),
      (844034400, ⟨7200, []⟩), (875916000, ⟨3600, libya⟩), (1352505600, ⟨7200, []⟩),
      (1382659200, ⟨3600, libya⟩)], ⟨7200, []⟩⟩,
    ⟨["Africa/Tunis"], [], ⟨3600, tunisia⟩⟩,
    ⟨["Africa/Windhoek"], [(764200800, ⟨7200, []⟩)], ⟨3600, namibia⟩⟩,
    ⟨["Atlantic/Cape_Verde"], [(186120000, ⟨-7200, []⟩)], ⟨-3600, []⟩⟩]

end FleetRollout.Calendar
