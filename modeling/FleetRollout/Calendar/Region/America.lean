import FleetRollout.Calendar.Region.Europe

set_option autoImplicit false

namespace FleetRollout.Calendar

def argentina : List Changeover :=
  [⟨1974, 1974, 1, .date 23, .standard, 0, 3600⟩, ⟨1974, 1974, 5, .date 1, .standard, -3600, 0⟩,
    ⟨1988, 1988, 12, .date 1, .standard, 0, 3600⟩,
    ⟨1989, 1993, 3, .onOrAfter 1 0, .standard, -3600, 0⟩,
    ⟨1989, 1992, 10, .onOrAfter 15 0, .standard, 0, 3600⟩,
    ⟨2007, 2007, 12, .date 30, .standard, 0, 3600⟩,
    ⟨2008, 2009, 3, .onOrAfter 15 0, .standard, -3600, 0⟩,
    ⟨2008, 2008, 10, .onOrAfter 15 0, .standard, 0, 3600⟩]

def barbados : List Changeover :=
  [⟨1977, 1977, 6, .date 12, .standard, 7200, 3600⟩,
    ⟨1977, 1978, 10, .onOrAfter 1 0, .standard, 3600, 0⟩,
    ⟨1978, 1980, 4, .onOrAfter 15 0, .standard, 7200, 3600⟩,
    ⟨1979, 1979, 9, .date 30, .standard, 3600, 0⟩, ⟨1980, 1980, 9, .date 25, .standard, 3600, 0⟩]

def belize : List Changeover :=
  [⟨1973, 1973, 12, .date 5, .standard, 0, 3600⟩, ⟨1974, 1974, 2, .date 9, .standard, -3600, 0⟩,
    ⟨1982, 1982, 12, .date 18, .standard, 0, 3600⟩, ⟨1983, 1983, 2, .date 12, .standard, -3600, 0⟩]

def brazil : List Changeover :=
  [⟨1985, 1985, 11, .date 2, .standard, 0, 3600⟩, ⟨1986, 1986, 3, .date 15, .standard, -3600, 0⟩,
    ⟨1986, 1986, 10, .date 25, .standard, 0, 3600⟩, ⟨1987, 1987, 2, .date 14, .standard, -3600, 0⟩,
    ⟨1987, 1987, 10, .date 25, .standard, 0, 3600⟩, ⟨1988, 1988, 2, .date 7, .standard, -3600, 0⟩,
    ⟨1988, 1988, 10, .date 16, .standard, 0, 3600⟩, ⟨1989, 1989, 1, .date 29, .standard, -3600, 0⟩,
    ⟨1989, 1989, 10, .date 15, .standard, 0, 3600⟩, ⟨1990, 1990, 2, .date 11, .standard, -3600, 0⟩,
    ⟨1990, 1990, 10, .date 21, .standard, 0, 3600⟩, ⟨1991, 1991, 2, .date 17, .standard, -3600, 0⟩,
    ⟨1991, 1991, 10, .date 20, .standard, 0, 3600⟩, ⟨1992, 1992, 2, .date 9, .standard, -3600, 0⟩,
    ⟨1992, 1992, 10, .date 25, .standard, 0, 3600⟩, ⟨1993, 1993, 1, .date 31, .standard, -3600, 0⟩,
    ⟨1993, 1995, 10, .onOrAfter 11 0, .standard, 0, 3600⟩,
    ⟨1994, 1995, 2, .onOrAfter 15 0, .standard, -3600, 0⟩,
    ⟨1996, 1996, 2, .date 11, .standard, -3600, 0⟩, ⟨1996, 1996, 10, .date 6, .standard, 0, 3600⟩,
    ⟨1997, 1997, 2, .date 16, .standard, -3600, 0⟩, ⟨1997, 1997, 10, .date 6, .standard, 0, 3600⟩,
    ⟨1998, 1998, 3, .date 1, .standard, -3600, 0⟩, ⟨1998, 1998, 10, .date 11, .standard, 0, 3600⟩,
    ⟨1999, 1999, 2, .date 21, .standard, -3600, 0⟩, ⟨1999, 1999, 10, .date 3, .standard, 0, 3600⟩,
    ⟨2000, 2000, 2, .date 27, .standard, -3600, 0⟩,
    ⟨2000, 2001, 10, .onOrAfter 8 0, .standard, 0, 3600⟩,
    ⟨2001, 2006, 2, .onOrAfter 15 0, .standard, -3600, 0⟩,
    ⟨2002, 2002, 11, .date 3, .standard, 0, 3600⟩, ⟨2003, 2003, 10, .date 19, .standard, 0, 3600⟩,
    ⟨2004, 2004, 11, .date 2, .standard, 0, 3600⟩, ⟨2005, 2005, 10, .date 16, .standard, 0, 3600⟩,
    ⟨2006, 2006, 11, .date 5, .standard, 0, 3600⟩, ⟨2007, 2007, 2, .date 25, .standard, -3600, 0⟩,
    ⟨2007, 2007, 10, .onOrAfter 8 0, .standard, 0, 3600⟩,
    ⟨2008, 2017, 10, .onOrAfter 15 0, .standard, 0, 3600⟩,
    ⟨2008, 2011, 2, .onOrAfter 15 0, .standard, -3600, 0⟩,
    ⟨2012, 2012, 2, .onOrAfter 22 0, .standard, -3600, 0⟩,
    ⟨2013, 2014, 2, .onOrAfter 15 0, .standard, -3600, 0⟩,
    ⟨2015, 2015, 2, .onOrAfter 22 0, .standard, -3600, 0⟩,
    ⟨2016, 2019, 2, .onOrAfter 15 0, .standard, -3600, 0⟩,
    ⟨2018, 2018, 11, .onOrAfter 1 0, .standard, 0, 3600⟩]

def canada : List Changeover :=
  [⟨1974, 1986, 4, .last 0, .standard, 7200, 3600⟩, ⟨1974, 2006, 10, .last 0, .standard, 3600, 0⟩,
    ⟨1987, 2006, 4, .onOrAfter 1 0, .standard, 7200, 3600⟩,
    ⟨2007, 2099, 3, .onOrAfter 8 0, .standard, 7200, 3600⟩,
    ⟨2007, 2099, 11, .onOrAfter 1 0, .standard, 3600, 0⟩]

def chile : List Changeover :=
  [⟨1969, 1969, 11, .date 23, .universal, 14400, 3600⟩,
    ⟨1970, 1970, 3, .date 29, .universal, 10800, 0⟩,
    ⟨1971, 1971, 3, .date 14, .universal, 10800, 0⟩,
    ⟨1970, 1972, 10, .onOrAfter 9 0, .universal, 14400, 3600⟩,
    ⟨1972, 1986, 3, .onOrAfter 9 0, .universal, 10800, 0⟩,
    ⟨1973, 1973, 9, .date 30, .universal, 14400, 3600⟩,
    ⟨1974, 1987, 10, .onOrAfter 9 0, .universal, 14400, 3600⟩,
    ⟨1987, 1987, 4, .date 12, .universal, 10800, 0⟩,
    ⟨1988, 1990, 3, .onOrAfter 9 0, .universal, 10800, 0⟩,
    ⟨1988, 1989, 10, .onOrAfter 9 0, .universal, 14400, 3600⟩,
    ⟨1990, 1990, 9, .date 16, .universal, 14400, 3600⟩,
    ⟨1991, 1996, 3, .onOrAfter 9 0, .universal, 10800, 0⟩,
    ⟨1991, 1997, 10, .onOrAfter 9 0, .universal, 14400, 3600⟩,
    ⟨1997, 1997, 3, .date 30, .universal, 10800, 0⟩,
    ⟨1998, 1998, 3, .onOrAfter 9 0, .universal, 10800, 0⟩,
    ⟨1998, 1998, 9, .date 27, .universal, 14400, 3600⟩,
    ⟨1999, 1999, 4, .date 4, .universal, 10800, 0⟩,
    ⟨1999, 2010, 10, .onOrAfter 9 0, .universal, 14400, 3600⟩,
    ⟨2000, 2007, 3, .onOrAfter 9 0, .universal, 10800, 0⟩,
    ⟨2008, 2008, 3, .date 30, .universal, 10800, 0⟩,
    ⟨2009, 2009, 3, .onOrAfter 9 0, .universal, 10800, 0⟩,
    ⟨2010, 2010, 4, .onOrAfter 1 0, .universal, 10800, 0⟩,
    ⟨2011, 2011, 5, .onOrAfter 2 0, .universal, 10800, 0⟩,
    ⟨2011, 2011, 8, .onOrAfter 16 0, .universal, 14400, 3600⟩,
    ⟨2012, 2014, 4, .onOrAfter 23 0, .universal, 10800, 0⟩,
    ⟨2012, 2014, 9, .onOrAfter 2 0, .universal, 14400, 3600⟩,
    ⟨2016, 2018, 5, .onOrAfter 9 0, .universal, 10800, 0⟩,
    ⟨2016, 2018, 8, .onOrAfter 9 0, .universal, 14400, 3600⟩,
    ⟨2019, 2099, 4, .onOrAfter 2 0, .universal, 10800, 0⟩,
    ⟨2019, 2021, 9, .onOrAfter 2 0, .universal, 14400, 3600⟩,
    ⟨2022, 2022, 9, .onOrAfter 9 0, .universal, 14400, 3600⟩,
    ⟨2023, 2099, 9, .onOrAfter 2 0, .universal, 14400, 3600⟩]

def colombia : List Changeover :=
  [⟨1992, 1992, 5, .date 3, .standard, 0, 3600⟩, ⟨1993, 1993, 2, .date 6, .standard, 82800, 0⟩]

def costaRica : List Changeover :=
  [⟨1979, 1980, 2, .last 0, .standard, 0, 3600⟩,
    ⟨1979, 1980, 6, .onOrAfter 1 0, .standard, -3600, 0⟩,
    ⟨1991, 1992, 1, .onOrAfter 15 6, .standard, 0, 3600⟩,
    ⟨1991, 1991, 7, .date 1, .standard, -3600, 0⟩, ⟨1992, 1992, 3, .date 15, .standard, -3600, 0⟩]

def cuba : List Changeover :=
  [⟨1969, 1977, 4, .last 0, .standard, 0, 3600⟩, ⟨1969, 1971, 10, .last 0, .standard, -3600, 0⟩,
    ⟨1972, 1974, 10, .date 8, .standard, -3600, 0⟩, ⟨1975, 1977, 10, .last 0, .standard, -3600, 0⟩,
    ⟨1978, 1978, 5, .date 7, .standard, 0, 3600⟩,
    ⟨1978, 1990, 10, .onOrAfter 8 0, .standard, -3600, 0⟩,
    ⟨1979, 1980, 3, .onOrAfter 15 0, .standard, 0, 3600⟩,
    ⟨1981, 1985, 5, .onOrAfter 5 0, .standard, 0, 3600⟩,
    ⟨1986, 1989, 3, .onOrAfter 14 0, .standard, 0, 3600⟩,
    ⟨1990, 1997, 4, .onOrAfter 1 0, .standard, 0, 3600⟩,
    ⟨1991, 1995, 10, .onOrAfter 8 0, .standard, 0, 0⟩, ⟨1996, 1996, 10, .date 6, .standard, 0, 0⟩,
    ⟨1997, 1997, 10, .date 12, .standard, 0, 0⟩, ⟨1998, 1999, 3, .last 0, .standard, 0, 3600⟩,
    ⟨1998, 2003, 10, .last 0, .standard, 0, 0⟩, ⟨2000, 2003, 4, .onOrAfter 1 0, .standard, 0, 3600⟩,
    ⟨2004, 2004, 3, .last 0, .standard, 0, 3600⟩, ⟨2006, 2010, 10, .last 0, .standard, 0, 0⟩,
    ⟨2007, 2007, 3, .onOrAfter 8 0, .standard, 0, 3600⟩,
    ⟨2008, 2008, 3, .onOrAfter 15 0, .standard, 0, 3600⟩,
    ⟨2009, 2010, 3, .onOrAfter 8 0, .standard, 0, 3600⟩,
    ⟨2011, 2011, 3, .onOrAfter 15 0, .standard, 0, 3600⟩,
    ⟨2011, 2011, 11, .date 13, .standard, 0, 0⟩, ⟨2012, 2012, 4, .date 1, .standard, 0, 3600⟩,
    ⟨2012, 2099, 11, .onOrAfter 1 0, .standard, 0, 0⟩,
    ⟨2013, 2099, 3, .onOrAfter 8 0, .standard, 0, 3600⟩]

def dominicanRepublic : List Changeover :=
  [⟨1969, 1973, 10, .last 0, .standard, 0, 1800⟩, ⟨1970, 1970, 2, .date 21, .standard, -1800, 0⟩,
    ⟨1971, 1971, 1, .date 20, .standard, -1800, 0⟩, ⟨1972, 1974, 1, .date 21, .standard, -1800, 0⟩]

def ecuador : List Changeover :=
  [⟨1992, 1992, 11, .date 28, .standard, 0, 3600⟩, ⟨1993, 1993, 2, .date 5, .standard, -3600, 0⟩]

def edmonton : List Changeover :=
  [⟨1972, 1986, 4, .last 0, .standard, 7200, 3600⟩, ⟨1972, 1986, 10, .last 0, .standard, 3600, 0⟩]

def elSalvador : List Changeover :=
  [⟨1987, 1988, 5, .onOrAfter 1 0, .standard, 0, 3600⟩,
    ⟨1987, 1988, 9, .last 0, .standard, -3600, 0⟩]

def falklands : List Changeover :=
  [⟨1983, 1983, 9, .last 0, .standard, 0, 3600⟩, ⟨1984, 1985, 4, .last 0, .standard, -3600, 0⟩,
    ⟨1984, 1984, 9, .date 16, .standard, 0, 3600⟩,
    ⟨1985, 2000, 9, .onOrAfter 9 0, .standard, 0, 3600⟩,
    ⟨1986, 2000, 4, .onOrAfter 16 0, .standard, -3600, 0⟩,
    ⟨2001, 2010, 4, .onOrAfter 15 0, .standard, 3600, 0⟩,
    ⟨2001, 2010, 9, .onOrAfter 1 0, .standard, 7200, 3600⟩]

def guatemala : List Changeover :=
  [⟨1973, 1973, 11, .date 25, .standard, 0, 3600⟩, ⟨1974, 1974, 2, .date 24, .standard, -3600, 0⟩,
    ⟨1983, 1983, 5, .date 21, .standard, 0, 3600⟩, ⟨1983, 1983, 9, .date 22, .standard, -3600, 0⟩,
    ⟨1991, 1991, 3, .date 23, .standard, 0, 3600⟩, ⟨1991, 1991, 9, .date 7, .standard, -3600, 0⟩,
    ⟨2006, 2006, 4, .date 30, .standard, 0, 3600⟩, ⟨2006, 2006, 10, .date 1, .standard, -3600, 0⟩]

def haiti : List Changeover :=
  [⟨1983, 1983, 5, .date 8, .standard, 0, 3600⟩, ⟨1984, 1987, 4, .last 0, .standard, 0, 3600⟩,
    ⟨1983, 1987, 10, .last 0, .standard, -3600, 0⟩,
    ⟨1988, 1997, 4, .onOrAfter 1 0, .standard, 3600, 3600⟩,
    ⟨1988, 1997, 10, .last 0, .standard, 3600, 0⟩,
    ⟨2005, 2006, 4, .onOrAfter 1 0, .standard, 0, 3600⟩,
    ⟨2005, 2006, 10, .last 0, .standard, -3600, 0⟩,
    ⟨2012, 2015, 3, .onOrAfter 8 0, .standard, 7200, 3600⟩,
    ⟨2012, 2015, 11, .onOrAfter 1 0, .standard, 3600, 0⟩,
    ⟨2017, 2099, 3, .onOrAfter 8 0, .standard, 7200, 3600⟩,
    ⟨2017, 2099, 11, .onOrAfter 1 0, .standard, 3600, 0⟩]

def halifax : List Changeover :=
  [⟨1962, 1973, 4, .last 0, .standard, 7200, 3600⟩, ⟨1962, 1973, 10, .last 0, .standard, 3600, 0⟩]

def honduras : List Changeover :=
  [⟨1987, 1988, 5, .onOrAfter 1 0, .standard, 0, 3600⟩,
    ⟨1987, 1988, 9, .last 0, .standard, -3600, 0⟩,
    ⟨2006, 2006, 5, .onOrAfter 1 0, .standard, 0, 3600⟩,
    ⟨2006, 2006, 8, .onOrAfter 1 1, .standard, -3600, 0⟩]

def mexico : List Changeover :=
  [⟨1996, 2000, 4, .onOrAfter 1 0, .standard, 7200, 3600⟩,
    ⟨1996, 2000, 10, .last 0, .standard, 3600, 0⟩,
    ⟨2001, 2001, 5, .onOrAfter 1 0, .standard, 7200, 3600⟩,
    ⟨2001, 2001, 9, .last 0, .standard, 3600, 0⟩,
    ⟨2002, 2022, 4, .onOrAfter 1 0, .standard, 7200, 3600⟩,
    ⟨2002, 2022, 10, .last 0, .standard, 3600, 0⟩]

def moncton : List Changeover :=
  [⟨1946, 1972, 4, .last 0, .standard, 7200, 3600⟩, ⟨1957, 1972, 10, .last 0, .standard, 3600, 0⟩,
    ⟨1993, 2006, 4, .onOrAfter 1 0, .standard, 60, 3600⟩,
    ⟨1993, 2006, 10, .last 0, .standard, -3540, 0⟩]

def newfoundland : List Changeover :=
  [⟨1951, 1986, 4, .last 0, .standard, 7200, 3600⟩, ⟨1960, 1986, 10, .last 0, .standard, 3600, 0⟩,
    ⟨1987, 1987, 4, .onOrAfter 1 0, .standard, 60, 3600⟩,
    ⟨1987, 1987, 10, .last 0, .standard, -3540, 0⟩, ⟨1988, 1988, 10, .last 0, .standard, -7140, 0⟩,
    ⟨1989, 2006, 10, .last 0, .standard, -3540, 0⟩,
    ⟨1988, 1988, 4, .onOrAfter 1 0, .standard, 60, 7200⟩,
    ⟨1989, 2006, 4, .onOrAfter 1 0, .standard, 60, 3600⟩,
    ⟨2007, 2011, 3, .onOrAfter 8 0, .standard, 60, 3600⟩,
    ⟨2007, 2010, 11, .onOrAfter 1 0, .standard, -3540, 0⟩]

def nicaragua : List Changeover :=
  [⟨1979, 1980, 3, .onOrAfter 16 0, .standard, 0, 3600⟩,
    ⟨1979, 1980, 6, .onOrAfter 23 1, .standard, -3600, 0⟩,
    ⟨2005, 2005, 4, .date 10, .standard, 0, 3600⟩,
    ⟨2005, 2005, 10, .onOrAfter 1 0, .standard, -3600, 0⟩,
    ⟨2006, 2006, 4, .date 30, .standard, 7200, 3600⟩,
    ⟨2006, 2006, 10, .onOrAfter 1 0, .standard, 0, 0⟩]

def northwestTerritories : List Changeover :=
  [⟨1972, 1986, 4, .last 0, .standard, 7200, 3600⟩, ⟨1972, 2006, 10, .last 0, .standard, 3600, 0⟩,
    ⟨1987, 2006, 4, .onOrAfter 1 0, .standard, 7200, 3600⟩]

def paraguay : List Changeover :=
  [⟨1975, 1988, 10, .date 1, .standard, 0, 3600⟩, ⟨1976, 1978, 3, .date 1, .standard, -3600, 0⟩,
    ⟨1979, 1991, 4, .date 1, .standard, -3600, 0⟩, ⟨1989, 1989, 10, .date 22, .standard, 0, 3600⟩,
    ⟨1990, 1990, 10, .date 1, .standard, 0, 3600⟩, ⟨1991, 1991, 10, .date 6, .standard, 0, 3600⟩,
    ⟨1992, 1992, 3, .date 1, .standard, -3600, 0⟩, ⟨1992, 1992, 10, .date 5, .standard, 0, 3600⟩,
    ⟨1993, 1993, 3, .date 31, .standard, -3600, 0⟩, ⟨1993, 1995, 10, .date 1, .standard, 0, 3600⟩,
    ⟨1994, 1995, 2, .last 0, .standard, -3600, 0⟩, ⟨1996, 1996, 3, .date 1, .standard, -3600, 0⟩,
    ⟨1996, 2001, 10, .onOrAfter 1 0, .standard, 0, 3600⟩,
    ⟨1997, 1997, 2, .last 0, .standard, -3600, 0⟩,
    ⟨1998, 2001, 3, .onOrAfter 1 0, .standard, -3600, 0⟩,
    ⟨2002, 2004, 4, .onOrAfter 1 0, .standard, -3600, 0⟩,
    ⟨2002, 2003, 9, .onOrAfter 1 0, .standard, 0, 3600⟩,
    ⟨2004, 2009, 10, .onOrAfter 15 0, .standard, 0, 3600⟩,
    ⟨2005, 2009, 3, .onOrAfter 8 0, .standard, -3600, 0⟩,
    ⟨2010, 2024, 10, .onOrAfter 1 0, .standard, 0, 3600⟩,
    ⟨2010, 2012, 4, .onOrAfter 8 0, .standard, -3600, 0⟩,
    ⟨2013, 2024, 3, .onOrAfter 22 0, .standard, -3600, 0⟩]

def peru : List Changeover :=
  [⟨1986, 1987, 1, .date 1, .standard, 0, 3600⟩, ⟨1986, 1987, 4, .date 1, .standard, -3600, 0⟩,
    ⟨1990, 1990, 1, .date 1, .standard, 0, 3600⟩, ⟨1990, 1990, 4, .date 1, .standard, -3600, 0⟩,
    ⟨1994, 1994, 1, .date 1, .standard, 0, 3600⟩, ⟨1994, 1994, 4, .date 1, .standard, -3600, 0⟩]

def sanLuis : List Changeover :=
  [⟨2008, 2009, 3, .onOrAfter 8 0, .standard, -3600, 0⟩,
    ⟨2007, 2008, 10, .onOrAfter 8 0, .standard, 0, 3600⟩]

def thule : List Changeover :=
  [⟨1991, 1992, 3, .last 0, .standard, 7200, 3600⟩, ⟨1991, 1992, 9, .last 0, .standard, 3600, 0⟩,
    ⟨1993, 2006, 4, .onOrAfter 1 0, .standard, 7200, 3600⟩,
    ⟨1993, 2006, 10, .last 0, .standard, 3600, 0⟩,
    ⟨2007, 2099, 3, .onOrAfter 8 0, .standard, 7200, 3600⟩,
    ⟨2007, 2099, 11, .onOrAfter 1 0, .standard, 3600, 0⟩]

def toronto : List Changeover :=
  [⟨1946, 1973, 4, .last 0, .standard, 7200, 3600⟩, ⟨1957, 1973, 10, .last 0, .standard, 3600, 0⟩]

def unitedStates : List Changeover :=
  [⟨1967, 2006, 10, .last 0, .standard, 3600, 0⟩, ⟨1967, 1973, 4, .last 0, .standard, 7200, 3600⟩,
    ⟨1974, 1974, 1, .date 6, .standard, 7200, 3600⟩,
    ⟨1975, 1975, 2, .last 0, .standard, 7200, 3600⟩,
    ⟨1976, 1986, 4, .last 0, .standard, 7200, 3600⟩,
    ⟨1987, 2006, 4, .onOrAfter 1 0, .standard, 7200, 3600⟩,
    ⟨2007, 2099, 3, .onOrAfter 8 0, .standard, 7200, 3600⟩,
    ⟨2007, 2099, 11, .onOrAfter 1 0, .standard, 3600, 0⟩]

def uruguay : List Changeover :=
  [⟨1970, 1970, 4, .date 25, .standard, 0, 3600⟩, ⟨1970, 1970, 6, .date 14, .standard, -3600, 0⟩,
    ⟨1972, 1972, 4, .date 23, .standard, 0, 3600⟩, ⟨1972, 1972, 7, .date 16, .standard, -3600, 0⟩,
    ⟨1974, 1974, 1, .date 13, .standard, 0, 5400⟩,
    ⟨1974, 1974, 3, .date 10, .standard, -5400, 1800⟩,
    ⟨1974, 1974, 9, .date 1, .standard, -1800, 0⟩, ⟨1974, 1974, 12, .date 22, .standard, 0, 3600⟩,
    ⟨1975, 1975, 3, .date 30, .standard, -3600, 0⟩, ⟨1976, 1976, 12, .date 19, .standard, 0, 3600⟩,
    ⟨1977, 1977, 3, .date 6, .standard, -3600, 0⟩, ⟨1977, 1977, 12, .date 4, .standard, 0, 3600⟩,
    ⟨1978, 1979, 3, .onOrAfter 1 0, .standard, -3600, 0⟩,
    ⟨1978, 1978, 12, .date 17, .standard, 0, 3600⟩, ⟨1979, 1979, 4, .date 29, .standard, 0, 3600⟩,
    ⟨1980, 1980, 3, .date 16, .standard, -3600, 0⟩, ⟨1987, 1987, 12, .date 14, .standard, 0, 3600⟩,
    ⟨1988, 1988, 2, .date 28, .standard, -3600, 0⟩, ⟨1988, 1988, 12, .date 11, .standard, 0, 3600⟩,
    ⟨1989, 1989, 3, .date 5, .standard, -3600, 0⟩, ⟨1989, 1989, 10, .date 29, .standard, 0, 3600⟩,
    ⟨1990, 1990, 2, .date 25, .standard, -3600, 0⟩,
    ⟨1990, 1991, 10, .onOrAfter 21 0, .standard, 0, 3600⟩,
    ⟨1991, 1992, 3, .onOrAfter 1 0, .standard, -3600, 0⟩,
    ⟨1992, 1992, 10, .date 18, .standard, 0, 3600⟩, ⟨1993, 1993, 2, .date 28, .standard, -3600, 0⟩,
    ⟨2004, 2004, 9, .date 19, .standard, 0, 3600⟩, ⟨2005, 2005, 3, .date 27, .standard, 3600, 0⟩,
    ⟨2005, 2005, 10, .date 9, .standard, 7200, 3600⟩,
    ⟨2006, 2015, 3, .onOrAfter 8 0, .standard, 3600, 0⟩,
    ⟨2006, 2014, 10, .onOrAfter 1 0, .standard, 7200, 3600⟩]

def vancouver : List Changeover :=
  [⟨1946, 1986, 4, .last 0, .standard, 7200, 3600⟩, ⟨1962, 1986, 10, .last 0, .standard, 3600, 0⟩]

def winnipeg : List Changeover :=
  [⟨1966, 1986, 4, .last 0, .standard, 7200, 3600⟩, ⟨1966, 2005, 10, .last 0, .standard, 7200, 0⟩,
    ⟨1987, 2005, 4, .onOrAfter 1 0, .standard, 7200, 3600⟩]

def americanPlaces : List Place :=
  [⟨["America/Adak", "America/Atka", "US/Aleutian"], [(436363200, ⟨-39600, unitedStates⟩)],
      ⟨-36000, unitedStates⟩⟩,
    ⟨["America/Anchorage", "US/Alaska"], [(436359600, ⟨-36000, unitedStates⟩)],
      ⟨-32400, unitedStates⟩⟩,
    ⟨["America/Araguaina"], [(656478000, ⟨-10800, brazil⟩), (813726000, ⟨-10800, []⟩),
      (1066532400, ⟨-10800, brazil⟩), (1350788400, ⟨-10800, []⟩), (1382238000, ⟨-10800, brazil⟩)],
      ⟨-10800, []⟩⟩,
    ⟨["America/Argentina/Buenos_Aires", "America/Buenos_Aires"], [(938919600, ⟨-10800, argentina⟩),
      (1198983600, ⟨-10800, []⟩)], ⟨-10800, argentina⟩⟩,
    ⟨["America/Argentina/Catamarca", "America/Argentina/ComodRivadavia", "America/Catamarca"],
      [(667965600, ⟨-10800, argentina⟩), (687931200, ⟨-14400, []⟩),
      (938919600, ⟨-10800, argentina⟩), (1086058800, ⟨-10800, []⟩), (1087704000, ⟨-14400, []⟩),
      (1224385200, ⟨-10800, argentina⟩)], ⟨-10800, []⟩⟩,
    ⟨["America/Argentina/Cordoba", "America/Cordoba", "America/Rosario"],
      [(667965600, ⟨-10800, argentina⟩), (687931200, ⟨-14400, []⟩),
      (938919600, ⟨-10800, argentina⟩), (1198983600, ⟨-10800, []⟩)], ⟨-10800, argentina⟩⟩,
    ⟨["America/Argentina/Jujuy", "America/Jujuy"], [(636516000, ⟨-10800, argentina⟩),
      (657086400, ⟨-14400, []⟩), (669178800, ⟨-10800, []⟩), (686721600, ⟨-14400, []⟩),
      (699415200, ⟨-7200, []⟩), (938919600, ⟨-10800, argentina⟩), (1198983600, ⟨-10800, []⟩),
      (1224385200, ⟨-10800, argentina⟩)], ⟨-10800, []⟩⟩,
    ⟨["America/Argentina/La_Rioja"], [(667792800, ⟨-10800, argentina⟩), (673588800, ⟨-14400, []⟩),
      (938919600, ⟨-10800, argentina⟩), (1086058800, ⟨-10800, []⟩), (1087704000, ⟨-14400, []⟩),
      (1224385200, ⟨-10800, argentina⟩)], ⟨-10800, []⟩⟩,
    ⟨["America/Argentina/Mendoza", "America/Mendoza"], [(636516000, ⟨-10800, argentina⟩),
      (655963200, ⟨-14400, []⟩), (667796400, ⟨-10800, []⟩), (687499200, ⟨-14400, []⟩),
      (699418800, ⟨-10800, []⟩), (719380800, ⟨-14400, []⟩), (938919600, ⟨-10800, argentina⟩),
      (1085281200, ⟨-10800, []⟩), (1096171200, ⟨-14400, []⟩), (1224385200, ⟨-10800, argentina⟩)],
      ⟨-10800, []⟩⟩,
    ⟨["America/Argentina/Rio_Gallegos"], [(938919600, ⟨-10800, argentina⟩),
      (1086058800, ⟨-10800, []⟩), (1087704000, ⟨-14400, []⟩), (1224385200, ⟨-10800, argentina⟩)],
      ⟨-10800, []⟩⟩,
    ⟨["America/Argentina/Salta"], [(667965600, ⟨-10800, argentina⟩), (687931200, ⟨-14400, []⟩),
      (938919600, ⟨-10800, argentina⟩), (1198983600, ⟨-10800, []⟩),
      (1224385200, ⟨-10800, argentina⟩)], ⟨-10800, []⟩⟩,
    ⟨["America/Argentina/San_Juan"], [(667792800, ⟨-10800, argentina⟩), (673588800, ⟨-14400, []⟩),
      (938919600, ⟨-10800, argentina⟩), (1085972400, ⟨-10800, []⟩), (1090728000, ⟨-14400, []⟩),
      (1224385200, ⟨-10800, argentina⟩)], ⟨-10800, []⟩⟩,
    ⟨["America/Argentina/San_Luis"], [(636516000, ⟨-10800, argentina⟩), (637380000, ⟨-7200, []⟩),
      (655963200, ⟨-14400, []⟩), (667796400, ⟨-10800, []⟩), (675748800, ⟨-14400, []⟩),
      (1085972400, ⟨-10800, []⟩), (1090728000, ⟨-14400, []⟩), (1200880800, ⟨-10800, argentina⟩),
      (1255233600, ⟨-14400, sanLuis⟩)], ⟨-10800, []⟩⟩,
    ⟨["America/Argentina/Tucuman"], [(667965600, ⟨-10800, argentina⟩), (687931200, ⟨-14400, []⟩),
      (938919600, ⟨-10800, argentina⟩), (1086058800, ⟨-10800, []⟩), (1087099200, ⟨-14400, []⟩)],
      ⟨-10800, argentina⟩⟩,
    ⟨["America/Argentina/Ushuaia"], [(938919600, ⟨-10800, argentina⟩), (1085886000, ⟨-10800, []⟩),
      (1087704000, ⟨-14400, []⟩), (1224385200, ⟨-10800, argentina⟩)], ⟨-10800, []⟩⟩,
    ⟨["America/Asuncion"], [(86760000, ⟨-14400, []⟩), (134017200, ⟨-10800, []⟩)],
      ⟨-14400, paraguay⟩⟩,
    ⟨["America/Bahia"], [(1066532400, ⟨-10800, brazil⟩), (1318734000, ⟨-10800, []⟩),
      (1350788400, ⟨-10800, brazil⟩)], ⟨-10800, []⟩⟩,
    ⟨["America/Bahia_Banderas"], [(1270371600, ⟨-25200, mexico⟩)], ⟨-21600, mexico⟩⟩,
    ⟨["America/Barbados"], [], ⟨-14400, barbados⟩⟩,
    ⟨["America/Belem"], [(592974000, ⟨-10800, brazil⟩)], ⟨-10800, []⟩⟩,
    ⟨["America/Belize"], [], ⟨-21600, belize⟩⟩,
    ⟨["America/Boa_Vista"], [(592977600, ⟨-14400, brazil⟩), (938923200, ⟨-14400, []⟩),
      (971578800, ⟨-14400, brazil⟩)], ⟨-14400, []⟩⟩,
    ⟨["America/Bogota"], [], ⟨-18000, colombia⟩⟩,
    ⟨["America/Boise"], [(126694800, ⟨-25200, unitedStates⟩), (129114000, ⟨-25200, []⟩)],
      ⟨-25200, unitedStates⟩⟩,
    ⟨["America/Cambridge_Bay"], [(941356800, ⟨-25200, northwestTerritories⟩),
      (972802800, ⟨-21600, canada⟩), (973400400, ⟨-18000, []⟩), (1004256000, ⟨-21600, []⟩)],
      ⟨-25200, canada⟩⟩,
    ⟨["America/Campo_Grande"], [], ⟨-14400, brazil⟩⟩,
    ⟨["America/Cancun"], [(378201600, ⟨-21600, []⟩), (410504400, ⟨-18000, []⟩),
      (877849200, ⟨-21600, mexico⟩), (902037600, ⟨-18000, mexico⟩), (1422777600, ⟨-21600, mexico⟩)],
      ⟨-18000, []⟩⟩,
    ⟨["America/Caracas"], [(1197183600, ⟨-14400, []⟩), (1462086000, ⟨-16200, []⟩)], ⟨-14400, []⟩⟩,
    ⟨["America/Chicago", "CST6CDT", "US/Central"], [], ⟨-21600, unitedStates⟩⟩,
    ⟨["America/Chihuahua"], [(891763200, ⟨-21600, mexico⟩), (909302400, ⟨-21600, []⟩),
      (1667116800, ⟨-25200, mexico⟩)], ⟨-21600, []⟩⟩,
    ⟨["America/Ciudad_Juarez"], [(891763200, ⟨-21600, mexico⟩), (909302400, ⟨-21600, []⟩),
      (1268557200, ⟨-25200, mexico⟩), (1667721600, ⟨-25200, unitedStates⟩),
      (1669788000, ⟨-21600, []⟩)], ⟨-25200, unitedStates⟩⟩,
    ⟨["America/Costa_Rica"], [], ⟨-21600, costaRica⟩⟩,
    ⟨["America/Coyhaique"], [(1743908400, ⟨-14400, chile⟩)], ⟨-10800, []⟩⟩,
    ⟨["America/Cuiaba"], [(1066536000, ⟨-14400, brazil⟩), (1099368000, ⟨-14400, []⟩)],
      ⟨-14400, brazil⟩⟩,
    ⟨["America/Danmarkshavn"], [(323845200, ⟨-10800, []⟩), (820465200, ⟨-10800, europeanUnion⟩)],
      ⟨0, []⟩⟩,
    ⟨["America/Dawson"], [(120646800, ⟨-32400, []⟩), (325677600, ⟨-28800, []⟩),
      (1604221200, ⟨-28800, canada⟩)], ⟨-25200, []⟩⟩,
    ⟨["America/Dawson_Creek"], [(89197200, ⟨-28800, vancouver⟩)], ⟨-25200, []⟩⟩,
    ⟨["America/Denver", "America/Shiprock", "MST7MDT", "Navajo", "US/Mountain"], [],
      ⟨-25200, unitedStates⟩⟩,
    ⟨["America/Detroit", "US/Michigan"], [(104914800, ⟨-18000, []⟩),
      (162370800, ⟨-18000, unitedStates⟩), (167814000, ⟨-18000, []⟩)], ⟨-18000, unitedStates⟩⟩,
    ⟨["America/Edmonton", "America/Yellowknife", "Canada/Mountain"],
      [(544611600, ⟨-25200, edmonton⟩)], ⟨-25200, canada⟩⟩,
    ⟨["America/Eirunepe"], [(592981200, ⟨-18000, brazil⟩), (750834000, ⟨-18000, []⟩),
      (782283600, ⟨-18000, brazil⟩), (1214283600, ⟨-18000, []⟩), (1384056000, ⟨-14400, []⟩)],
      ⟨-18000, []⟩⟩,
    ⟨["America/El_Salvador"], [], ⟨-21600, elSalvador⟩⟩,
    ⟨["America/Ensenada", "America/Santa_Isabel", "America/Tijuana", "Mexico/BajaNorte"],
      [(199274400, ⟨-28800, []⟩), (1173607200, ⟨-28800, unitedStates⟩),
      (1268560800, ⟨-28800, mexico⟩)], ⟨-28800, unitedStates⟩⟩,
    ⟨["America/Fort_Nelson"], [(544615200, ⟨-28800, vancouver⟩), (1446368400, ⟨-28800, canada⟩)],
      ⟨-25200, []⟩⟩,
    ⟨["America/Fort_Wayne", "America/Indiana/Indianapolis", "America/Indianapolis",
      "US/East-Indiana"], [(41410800, ⟨-18000, unitedStates⟩), (1143961200, ⟨-18000, []⟩)],
      ⟨-18000, unitedStates⟩⟩,
    ⟨["America/Fortaleza"], [(656478000, ⟨-10800, brazil⟩), (938919600, ⟨-10800, []⟩),
      (972180000, ⟨-10800, brazil⟩), (1003028400, ⟨-10800, []⟩), (1036292400, ⟨-10800, brazil⟩)],
      ⟨-10800, []⟩⟩,
    ⟨["America/Glace_Bay"], [(73461600, ⟨-14400, []⟩), (136360800, ⟨-14400, halifax⟩)],
      ⟨-14400, canada⟩⟩,
    ⟨["America/Godthab", "America/Nuuk"], [(323845200, ⟨-10800, []⟩),
      (1698541200, ⟨-10800, europeanUnion⟩)], ⟨-7200, europeanUnion⟩⟩,
    ⟨["America/Goose_Bay"], [(1320555600, ⟨-14400, newfoundland⟩)], ⟨-14400, canada⟩⟩,
    ⟨["America/Grand_Turk"], [(294217200, ⟨-18000, []⟩), (1446357600, ⟨-18000, unitedStates⟩),
      (1541311200, ⟨-14400, []⟩)], ⟨-18000, unitedStates⟩⟩,
    ⟨["America/Guatemala"], [], ⟨-21600, guatemala⟩⟩,
    ⟨["America/Guayaquil"], [], ⟨-18000, ecuador⟩⟩,
    ⟨["America/Guyana"], [(176096700, ⟨-13500, []⟩), (701841600, ⟨-10800, []⟩)], ⟨-14400, []⟩⟩,
    ⟨["America/Halifax", "Canada/Atlantic"], [(136360800, ⟨-14400, halifax⟩)], ⟨-14400, canada⟩⟩,
    ⟨["America/Havana", "Cuba"], [], ⟨-18000, cuba⟩⟩,
    ⟨["America/Hermosillo"], [(923216400, ⟨-25200, mexico⟩)], ⟨-25200, []⟩⟩,
    ⟨["America/Indiana/Knox", "America/Knox_IN", "US/Indiana-Starke"],
      [(688546800, ⟨-21600, unitedStates⟩), (1162105200, ⟨-18000, []⟩)], ⟨-21600, unitedStates⟩⟩,
    ⟨["America/Indiana/Marengo"], [(126687600, ⟨-18000, unitedStates⟩), (162370800, ⟨-18000, []⟩),
      (199263600, ⟨-18000, unitedStates⟩), (1143961200, ⟨-18000, []⟩)], ⟨-18000, unitedStates⟩⟩,
    ⟨["America/Indiana/Petersburg"], [(247042800, ⟨-21600, unitedStates⟩),
      (1162105200, ⟨-18000, []⟩), (1194159600, ⟨-21600, unitedStates⟩)], ⟨-18000, unitedStates⟩⟩,
    ⟨["America/Indiana/Tell_City"], [(41410800, ⟨-18000, unitedStates⟩),
      (1162105200, ⟨-18000, []⟩)], ⟨-21600, unitedStates⟩⟩,
    ⟨["America/Indiana/Vevay"], [(104914800, ⟨-18000, unitedStates⟩), (1143961200, ⟨-18000, []⟩)],
      ⟨-18000, unitedStates⟩⟩,
    ⟨["America/Indiana/Vincennes"], [(41410800, ⟨-18000, unitedStates⟩), (1162105200, ⟨-18000, []⟩),
      (1194159600, ⟨-21600, unitedStates⟩)], ⟨-18000, unitedStates⟩⟩,
    ⟨["America/Indiana/Winamac"], [(41410800, ⟨-18000, unitedStates⟩), (1162105200, ⟨-18000, []⟩),
      (1173600000, ⟨-21600, []⟩)], ⟨-18000, unitedStates⟩⟩,
    ⟨["America/Inuvik"], [(294228000, ⟨-28800, northwestTerritories⟩)], ⟨-25200, canada⟩⟩,
    ⟨["America/Iqaluit", "America/Pangnirtung"], [(941349600, ⟨-18000, northwestTerritories⟩),
      (954662400, ⟨-21600, []⟩), (986108400, ⟨-18000, []⟩)], ⟨-18000, canada⟩⟩,
    ⟨["America/Jamaica", "Jamaica"], [(126687600, ⟨-18000, []⟩),
      (452070000, ⟨-18000, unitedStates⟩)], ⟨-18000, []⟩⟩,
    ⟨["America/Juneau"], [(325677600, ⟨-28800, unitedStates⟩), (357127200, ⟨-28800, []⟩),
      (436352400, ⟨-28800, unitedStates⟩), (452084400, ⟨-32400, []⟩)], ⟨-32400, unitedStates⟩⟩,
    ⟨["America/Kentucky/Louisville", "America/Louisville"], [(126687600, ⟨-18000, unitedStates⟩),
      (162370800, ⟨-18000, []⟩)], ⟨-18000, unitedStates⟩⟩,
    ⟨["America/Kentucky/Monticello"], [(972802800, ⟨-21600, unitedStates⟩)],
      ⟨-18000, unitedStates⟩⟩,
    ⟨["America/Lima"], [], ⟨-18000, peru⟩⟩,
    ⟨["America/Los_Angeles", "PST8PDT", "US/Pacific"], [], ⟨-28800, unitedStates⟩⟩,
    ⟨["America/Maceio"], [(656478000, ⟨-10800, brazil⟩), (813726000, ⟨-10800, []⟩),
      (844570800, ⟨-10800, brazil⟩), (938919600, ⟨-10800, []⟩), (972180000, ⟨-10800, brazil⟩),
      (1003028400, ⟨-10800, []⟩), (1036292400, ⟨-10800, brazil⟩)], ⟨-10800, []⟩⟩,
    ⟨["America/Managua"], [(105084000, ⟨-21600, []⟩), (161758800, ⟨-18000, []⟩),
      (694260000, ⟨-21600, nicaragua⟩), (717310800, ⟨-18000, []⟩), (725868000, ⟨-21600, []⟩),
      (852094800, ⟨-18000, []⟩)], ⟨-21600, nicaragua⟩⟩,
    ⟨["America/Manaus", "Brazil/West"], [(592977600, ⟨-14400, brazil⟩), (750830400, ⟨-14400, []⟩),
      (782280000, ⟨-14400, brazil⟩)], ⟨-14400, []⟩⟩,
    ⟨["America/Martinique"], [(323841600, ⟨-14400, []⟩), (338958000, ⟨-10800, []⟩)], ⟨-14400, []⟩⟩,
    ⟨["America/Matamoros"], [(576057600, ⟨-21600, []⟩), (607507200, ⟨-21600, unitedStates⟩),
      (1268553600, ⟨-21600, mexico⟩)], ⟨-21600, unitedStates⟩⟩,
    ⟨["America/Mazatlan", "Mexico/BajaSur"], [], ⟨-25200, mexico⟩⟩,
    ⟨["America/Menominee"], [(120639600, ⟨-18000, []⟩)], ⟨-21600, unitedStates⟩⟩,
    ⟨["America/Merida"], [(378201600, ⟨-21600, []⟩), (405068400, ⟨-18000, []⟩)], ⟨-21600, mexico⟩⟩,
    ⟨["America/Metlakatla"], [(452080800, ⟨-28800, unitedStates⟩), (1446372000, ⟨-28800, []⟩),
      (1541325600, ⟨-32400, unitedStates⟩), (1547978400, ⟨-28800, []⟩)], ⟨-32400, unitedStates⟩⟩,
    ⟨["America/Mexico_City", "Mexico/General"], [], ⟨-21600, mexico⟩⟩,
    ⟨["America/Miquelon"], [(326001600, ⟨-14400, []⟩), (544597200, ⟨-10800, []⟩)],
      ⟨-10800, canada⟩⟩,
    ⟨["America/Moncton"], [(136360800, ⟨-14400, moncton⟩), (733896060, ⟨-14400, canada⟩),
      (1173592800, ⟨-14400, moncton⟩)], ⟨-14400, canada⟩⟩,
    ⟨["America/Monterrey"], [(576057600, ⟨-21600, []⟩), (607507200, ⟨-21600, unitedStates⟩)],
      ⟨-21600, mexico⟩⟩,
    ⟨["America/Montevideo"], [], ⟨-10800, uruguay⟩⟩,
    ⟨["America/Montreal", "America/Nassau", "America/Nipigon", "America/Thunder_Bay",
      "America/Toronto", "Canada/Eastern"], [(136364400, ⟨-18000, toronto⟩)], ⟨-18000, canada⟩⟩,
    ⟨["America/New_York", "EST5EDT", "US/Eastern"], [], ⟨-18000, unitedStates⟩⟩,
    ⟨["America/Nome"], [(436363200, ⟨-39600, unitedStates⟩)], ⟨-32400, unitedStates⟩⟩,
    ⟨["America/Noronha", "Brazil/DeNoronha"], [(656474400, ⟨-7200, brazil⟩),
      (938916000, ⟨-7200, []⟩), (971571600, ⟨-7200, brazil⟩), (1003024800, ⟨-7200, []⟩),
      (1036288800, ⟨-7200, brazil⟩)], ⟨-7200, []⟩⟩,
    ⟨["America/North_Dakota/Beulah"], [(1289116800, ⟨-25200, unitedStates⟩)],
      ⟨-21600, unitedStates⟩⟩,
    ⟨["America/North_Dakota/Center"], [(720000000, ⟨-25200, unitedStates⟩)],
      ⟨-21600, unitedStates⟩⟩,
    ⟨["America/North_Dakota/New_Salem"], [(1067155200, ⟨-25200, unitedStates⟩)],
      ⟨-21600, unitedStates⟩⟩,
    ⟨["America/Ojinaga"], [(891763200, ⟨-21600, mexico⟩), (909302400, ⟨-21600, []⟩),
      (1268557200, ⟨-25200, mexico⟩), (1667721600, ⟨-25200, unitedStates⟩)],
      ⟨-21600, unitedStates⟩⟩,
    ⟨["America/Paramaribo"], [(465449400, ⟨-12600, []⟩)], ⟨-10800, []⟩⟩,
    ⟨["America/Port-au-Prince"], [], ⟨-18000, haiti⟩⟩,
    ⟨["America/Porto_Acre", "America/Rio_Branco", "Brazil/Acre"], [(592981200, ⟨-18000, brazil⟩),
      (1214283600, ⟨-18000, []⟩), (1384056000, ⟨-14400, []⟩)], ⟨-18000, []⟩⟩,
    ⟨["America/Porto_Velho"], [(592977600, ⟨-14400, brazil⟩)], ⟨-14400, []⟩⟩,
    ⟨["America/Punta_Arenas"], [(1494730800, ⟨-14400, chile⟩)], ⟨-10800, []⟩⟩,
    ⟨["America/Rainy_River", "America/Winnipeg", "Canada/Central"],
      [(1143964800, ⟨-21600, winnipeg⟩)], ⟨-21600, canada⟩⟩,
    ⟨["America/Rankin_Inlet"], [(972802800, ⟨-21600, northwestTerritories⟩),
      (1004252400, ⟨-18000, []⟩)], ⟨-21600, canada⟩⟩,
    ⟨["America/Recife"], [(656478000, ⟨-10800, brazil⟩), (938919600, ⟨-10800, []⟩),
      (971575200, ⟨-10800, brazil⟩), (1003028400, ⟨-10800, []⟩), (1036292400, ⟨-10800, brazil⟩)],
      ⟨-10800, []⟩⟩,
    ⟨["America/Resolute"], [(972802800, ⟨-21600, northwestTerritories⟩), (1004252400, ⟨-18000, []⟩),
      (1162105200, ⟨-21600, northwestTerritories⟩), (1194159600, ⟨-18000, []⟩)], ⟨-21600, canada⟩⟩,
    ⟨["America/Santarem"], [(592977600, ⟨-14400, brazil⟩), (1214280000, ⟨-14400, []⟩)],
      ⟨-10800, []⟩⟩,
    ⟨["America/Santiago", "Chile/Continental"], [], ⟨-14400, chile⟩⟩,
    ⟨["America/Santo_Domingo"], [(152082000, ⟨-18000, dominicanRepublic⟩),
      (972799200, ⟨-14400, []⟩), (975823200, ⟨-18000, []⟩)], ⟨-14400, []⟩⟩,
    ⟨["America/Sao_Paulo", "Brazil/East"], [], ⟨-10800, brazil⟩⟩,
    ⟨["America/Scoresbysund"], [(323841600, ⟨-7200, []⟩), (354679200, ⟨-7200, centralEurope⟩),
      (1711846800, ⟨-3600, europeanUnion⟩)], ⟨-7200, europeanUnion⟩⟩,
    ⟨["America/Sitka"], [(436352400, ⟨-28800, unitedStates⟩), (452084400, ⟨-32400, []⟩)],
      ⟨-32400, unitedStates⟩⟩,
    ⟨["America/St_Johns", "Canada/Newfoundland"], [(1320553800, ⟨-12600, newfoundland⟩)],
      ⟨-12600, canada⟩⟩,
    ⟨["America/Swift_Current"], [(73472400, ⟨-25200, []⟩)], ⟨-21600, []⟩⟩,
    ⟨["America/Tegucigalpa"], [], ⟨-21600, honduras⟩⟩,
    ⟨["America/Thule"], [], ⟨-14400, thule⟩⟩,
    ⟨["America/Vancouver", "Canada/Pacific"], [(544615200, ⟨-28800, vancouver⟩)], ⟨-28800, canada⟩⟩,
    ⟨["America/Whitehorse", "Canada/Yukon"], [(325677600, ⟨-28800, []⟩),
      (1604221200, ⟨-28800, canada⟩)], ⟨-25200, []⟩⟩,
    ⟨["America/Yakutat"], [], ⟨-32400, unitedStates⟩⟩,
    ⟨["Atlantic/Bermuda"], [], ⟨-14400, canada⟩⟩,
    ⟨["Atlantic/Stanley"], [(420609600, ⟨-14400, []⟩), (495601200, ⟨-10800, falklands⟩),
      (514350000, ⟨-10800, []⟩)], ⟨-14400, falklands⟩⟩]

end FleetRollout.Calendar
