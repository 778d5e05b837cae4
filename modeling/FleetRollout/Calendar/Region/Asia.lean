import FleetRollout.Calendar.Region.Europe

set_option autoImplicit false

namespace FleetRollout.Calendar

def armenia : List Changeover :=
  [⟨2011, 2011, 3, .last 0, .standard, 7200, 3600⟩, ⟨2011, 2011, 10, .last 0, .standard, 7200, 0⟩]

def azerbaijan : List Changeover :=
  [⟨1997, 2015, 3, .last 0, .standard, 14400, 3600⟩, ⟨1997, 2015, 10, .last 0, .standard, 14400, 0⟩]

def bangladesh : List Changeover :=
  [⟨2009, 2009, 6, .date 19, .standard, 82800, 3600⟩,
    ⟨2009, 2009, 12, .date 31, .standard, 82800, 0⟩]

def china : List Changeover :=
  [⟨1986, 1986, 5, .date 4, .standard, 7200, 3600⟩,
    ⟨1986, 1991, 9, .onOrAfter 11 0, .standard, 3600, 0⟩,
    ⟨1987, 1991, 4, .onOrAfter 11 0, .standard, 7200, 3600⟩]

def hongKong : List Changeover :=
  [⟨1965, 1973, 4, .onOrAfter 16 0, .standard, 12600, 3600⟩,
    ⟨1975, 1976, 4, .onOrAfter 16 0, .standard, 12600, 3600⟩,
    ⟨1965, 1976, 10, .onOrAfter 16 0, .standard, 9000, 0⟩,
    ⟨1973, 1973, 12, .date 30, .standard, 12600, 3600⟩,
    ⟨1979, 1979, 5, .date 13, .standard, 12600, 3600⟩,
    ⟨1979, 1979, 10, .date 21, .standard, 9000, 0⟩]

def iran : List Changeover :=
  [⟨1977, 1977, 3, .date 21, .standard, 82800, 3600⟩,
    ⟨1977, 1977, 10, .date 20, .standard, 82800, 0⟩,
    ⟨1978, 1978, 3, .date 24, .standard, 86400, 3600⟩, ⟨1978, 1978, 8, .date 5, .standard, 0, 0⟩,
    ⟨1979, 1979, 5, .date 26, .standard, 86400, 3600⟩,
    ⟨1979, 1979, 9, .date 18, .standard, 82800, 0⟩,
    ⟨1980, 1980, 3, .date 20, .standard, 86400, 3600⟩,
    ⟨1980, 1980, 9, .date 22, .standard, 82800, 0⟩,
    ⟨1991, 1991, 5, .date 2, .standard, 86400, 3600⟩,
    ⟨1992, 1995, 3, .date 21, .standard, 86400, 3600⟩,
    ⟨1991, 1995, 9, .date 21, .standard, 82800, 0⟩,
    ⟨1996, 1996, 3, .date 20, .standard, 86400, 3600⟩,
    ⟨1996, 1996, 9, .date 20, .standard, 82800, 0⟩,
    ⟨1997, 1999, 3, .date 21, .standard, 86400, 3600⟩,
    ⟨1997, 1999, 9, .date 21, .standard, 82800, 0⟩,
    ⟨2000, 2000, 3, .date 20, .standard, 86400, 3600⟩,
    ⟨2000, 2000, 9, .date 20, .standard, 82800, 0⟩,
    ⟨2001, 2003, 3, .date 21, .standard, 86400, 3600⟩,
    ⟨2001, 2003, 9, .date 21, .standard, 82800, 0⟩,
    ⟨2004, 2004, 3, .date 20, .standard, 86400, 3600⟩,
    ⟨2004, 2004, 9, .date 20, .standard, 82800, 0⟩,
    ⟨2005, 2005, 3, .date 21, .standard, 86400, 3600⟩,
    ⟨2005, 2005, 9, .date 21, .standard, 82800, 0⟩,
    ⟨2008, 2008, 3, .date 20, .standard, 86400, 3600⟩,
    ⟨2008, 2008, 9, .date 20, .standard, 82800, 0⟩,
    ⟨2009, 2011, 3, .date 21, .standard, 86400, 3600⟩,
    ⟨2009, 2011, 9, .date 21, .standard, 82800, 0⟩,
    ⟨2012, 2012, 3, .date 20, .standard, 86400, 3600⟩,
    ⟨2012, 2012, 9, .date 20, .standard, 82800, 0⟩,
    ⟨2013, 2015, 3, .date 21, .standard, 86400, 3600⟩,
    ⟨2013, 2015, 9, .date 21, .standard, 82800, 0⟩,
    ⟨2016, 2016, 3, .date 20, .standard, 86400, 3600⟩,
    ⟨2016, 2016, 9, .date 20, .standard, 82800, 0⟩,
    ⟨2017, 2019, 3, .date 21, .standard, 86400, 3600⟩,
    ⟨2017, 2019, 9, .date 21, .standard, 82800, 0⟩,
    ⟨2020, 2020, 3, .date 20, .standard, 86400, 3600⟩,
    ⟨2020, 2020, 9, .date 20, .standard, 82800, 0⟩,
    ⟨2021, 2022, 3, .date 21, .standard, 86400, 3600⟩,
    ⟨2021, 2022, 9, .date 21, .standard, 82800, 0⟩]

def iraq : List Changeover :=
  [⟨1982, 1982, 5, .date 1, .standard, 0, 3600⟩, ⟨1982, 1984, 10, .date 1, .standard, -3600, 0⟩,
    ⟨1983, 1983, 3, .date 31, .standard, 0, 3600⟩, ⟨1984, 1985, 4, .date 1, .standard, 0, 3600⟩,
    ⟨1985, 1990, 9, .last 0, .standard, 3600, 0⟩, ⟨1986, 1990, 3, .last 0, .standard, 3600, 3600⟩,
    ⟨1991, 2007, 4, .date 1, .standard, 10800, 3600⟩,
    ⟨1991, 2007, 10, .date 1, .standard, 10800, 0⟩]

def israel : List Changeover :=
  [⟨1974, 1974, 7, .date 6, .standard, 86400, 3600⟩,
    ⟨1974, 1974, 10, .date 12, .standard, 82800, 0⟩,
    ⟨1975, 1975, 4, .date 19, .standard, 86400, 3600⟩,
    ⟨1975, 1975, 8, .date 30, .standard, 82800, 0⟩,
    ⟨1980, 1980, 8, .date 2, .standard, 86400, 3600⟩,
    ⟨1980, 1980, 9, .date 13, .standard, 86400, 0⟩,
    ⟨1984, 1984, 5, .date 5, .standard, 86400, 3600⟩,
    ⟨1984, 1984, 8, .date 25, .standard, 86400, 0⟩,
    ⟨1985, 1985, 4, .date 13, .standard, 86400, 3600⟩,
    ⟨1985, 1985, 8, .date 31, .standard, 82800, 0⟩,
    ⟨1986, 1986, 5, .date 17, .standard, 86400, 3600⟩,
    ⟨1986, 1986, 9, .date 6, .standard, 82800, 0⟩,
    ⟨1987, 1987, 4, .date 14, .standard, 86400, 3600⟩,
    ⟨1987, 1987, 9, .date 12, .standard, 82800, 0⟩,
    ⟨1988, 1988, 4, .date 9, .standard, 86400, 3600⟩, ⟨1988, 1988, 9, .date 3, .standard, 82800, 0⟩,
    ⟨1989, 1989, 4, .date 29, .standard, 86400, 3600⟩,
    ⟨1989, 1989, 9, .date 2, .standard, 82800, 0⟩,
    ⟨1990, 1990, 3, .date 24, .standard, 86400, 3600⟩,
    ⟨1990, 1990, 8, .date 25, .standard, 82800, 0⟩,
    ⟨1991, 1991, 3, .date 23, .standard, 86400, 3600⟩,
    ⟨1991, 1991, 8, .date 31, .standard, 82800, 0⟩,
    ⟨1992, 1992, 3, .date 28, .standard, 86400, 3600⟩,
    ⟨1992, 1992, 9, .date 5, .standard, 82800, 0⟩, ⟨1993, 1993, 4, .date 2, .standard, 0, 3600⟩,
    ⟨1993, 1993, 9, .date 5, .standard, -3600, 0⟩, ⟨1994, 1994, 4, .date 1, .standard, 0, 3600⟩,
    ⟨1994, 1994, 8, .date 28, .standard, -3600, 0⟩, ⟨1995, 1995, 3, .date 31, .standard, 0, 3600⟩,
    ⟨1995, 1995, 9, .date 3, .standard, -3600, 0⟩,
    ⟨1996, 1996, 3, .date 14, .standard, 86400, 3600⟩,
    ⟨1996, 1996, 9, .date 15, .standard, 82800, 0⟩,
    ⟨1997, 1997, 3, .date 20, .standard, 86400, 3600⟩,
    ⟨1997, 1997, 9, .date 13, .standard, 82800, 0⟩, ⟨1998, 1998, 3, .date 20, .standard, 0, 3600⟩,
    ⟨1998, 1998, 9, .date 6, .standard, -3600, 0⟩, ⟨1999, 1999, 4, .date 2, .standard, 7200, 3600⟩,
    ⟨1999, 1999, 9, .date 3, .standard, 3600, 0⟩, ⟨2000, 2000, 4, .date 14, .standard, 7200, 3600⟩,
    ⟨2000, 2000, 10, .date 6, .standard, 0, 0⟩, ⟨2001, 2001, 4, .date 9, .standard, 3600, 3600⟩,
    ⟨2001, 2001, 9, .date 24, .standard, 0, 0⟩, ⟨2002, 2002, 3, .date 29, .standard, 3600, 3600⟩,
    ⟨2002, 2002, 10, .date 7, .standard, 0, 0⟩, ⟨2003, 2003, 3, .date 28, .standard, 3600, 3600⟩,
    ⟨2003, 2003, 10, .date 3, .standard, 0, 0⟩, ⟨2004, 2004, 4, .date 7, .standard, 3600, 3600⟩,
    ⟨2004, 2004, 9, .date 22, .standard, 0, 0⟩,
    ⟨2005, 2012, 4, .onOrBefore 1 5, .standard, 7200, 3600⟩,
    ⟨2005, 2005, 10, .date 9, .standard, 3600, 0⟩, ⟨2006, 2006, 10, .date 1, .standard, 3600, 0⟩,
    ⟨2007, 2007, 9, .date 16, .standard, 3600, 0⟩, ⟨2008, 2008, 10, .date 5, .standard, 3600, 0⟩,
    ⟨2009, 2009, 9, .date 27, .standard, 3600, 0⟩, ⟨2010, 2010, 9, .date 12, .standard, 3600, 0⟩,
    ⟨2011, 2011, 10, .date 2, .standard, 3600, 0⟩, ⟨2012, 2012, 9, .date 23, .standard, 3600, 0⟩,
    ⟨2013, 2099, 3, .onOrAfter 23 5, .standard, 7200, 3600⟩,
    ⟨2013, 2099, 10, .last 0, .standard, 3600, 0⟩]

def jordan : List Changeover :=
  [⟨1973, 1973, 6, .date 6, .standard, 0, 3600⟩, ⟨1973, 1975, 10, .date 1, .standard, -3600, 0⟩,
    ⟨1974, 1977, 5, .date 1, .standard, 0, 3600⟩, ⟨1976, 1976, 11, .date 1, .standard, -3600, 0⟩,
    ⟨1977, 1977, 10, .date 1, .standard, -3600, 0⟩, ⟨1978, 1978, 4, .date 30, .standard, 0, 3600⟩,
    ⟨1978, 1978, 9, .date 30, .standard, -3600, 0⟩, ⟨1985, 1985, 4, .date 1, .standard, 0, 3600⟩,
    ⟨1985, 1985, 10, .date 1, .standard, -3600, 0⟩,
    ⟨1986, 1988, 4, .onOrAfter 1 5, .standard, 0, 3600⟩,
    ⟨1986, 1990, 10, .onOrAfter 1 5, .standard, -3600, 0⟩,
    ⟨1989, 1989, 5, .date 8, .standard, 0, 3600⟩, ⟨1990, 1990, 4, .date 27, .standard, 0, 3600⟩,
    ⟨1991, 1991, 4, .date 17, .standard, 0, 3600⟩, ⟨1991, 1991, 9, .date 27, .standard, -3600, 0⟩,
    ⟨1992, 1992, 4, .date 10, .standard, 0, 3600⟩,
    ⟨1992, 1993, 10, .onOrAfter 1 5, .standard, -3600, 0⟩,
    ⟨1993, 1998, 4, .onOrAfter 1 5, .standard, 0, 3600⟩,
    ⟨1994, 1994, 9, .onOrAfter 15 5, .standard, -3600, 0⟩,
    ⟨1995, 1998, 9, .onOrAfter 15 5, .standard, 0, 0⟩, ⟨1999, 1999, 7, .date 1, .standard, 0, 3600⟩,
    ⟨1999, 2002, 9, .last 5, .standard, 0, 0⟩, ⟨2000, 2001, 3, .last 4, .standard, 0, 3600⟩,
    ⟨2002, 2012, 3, .last 4, .standard, 86400, 3600⟩, ⟨2003, 2003, 10, .date 24, .standard, 0, 0⟩,
    ⟨2004, 2004, 10, .date 15, .standard, 0, 0⟩, ⟨2005, 2005, 9, .last 5, .standard, 0, 0⟩,
    ⟨2006, 2011, 10, .last 5, .standard, 0, 0⟩, ⟨2013, 2013, 12, .date 20, .standard, -3600, 0⟩,
    ⟨2014, 2021, 3, .last 4, .standard, 86400, 3600⟩, ⟨2014, 2022, 10, .last 5, .standard, 0, 0⟩,
    ⟨2022, 2022, 2, .last 4, .standard, 86400, 3600⟩]

def korea : List Changeover :=
  [⟨1987, 1988, 5, .onOrAfter 8 0, .standard, 7200, 3600⟩,
    ⟨1987, 1988, 10, .onOrAfter 8 0, .standard, 7200, 0⟩]

def kyrgyzstan : List Changeover :=
  [⟨1992, 1996, 4, .onOrAfter 7 0, .standard, 0, 3600⟩,
    ⟨1992, 1996, 9, .last 0, .standard, -3600, 0⟩, ⟨1997, 2005, 3, .last 0, .standard, 9000, 3600⟩,
    ⟨1997, 2004, 10, .last 0, .standard, 5400, 0⟩]

def lebanon : List Changeover :=
  [⟨1972, 1972, 6, .date 22, .standard, 0, 3600⟩, ⟨1972, 1977, 10, .date 1, .standard, -3600, 0⟩,
    ⟨1973, 1977, 5, .date 1, .standard, 0, 3600⟩, ⟨1978, 1978, 4, .date 30, .standard, 0, 3600⟩,
    ⟨1978, 1978, 9, .date 30, .standard, -3600, 0⟩, ⟨1984, 1987, 5, .date 1, .standard, 0, 3600⟩,
    ⟨1984, 1991, 10, .date 16, .standard, -3600, 0⟩, ⟨1988, 1988, 6, .date 1, .standard, 0, 3600⟩,
    ⟨1989, 1989, 5, .date 10, .standard, 0, 3600⟩, ⟨1990, 1992, 5, .date 1, .standard, 0, 3600⟩,
    ⟨1992, 1992, 10, .date 4, .standard, -3600, 0⟩, ⟨1993, 2099, 3, .last 0, .standard, 0, 3600⟩,
    ⟨1993, 1998, 9, .last 0, .standard, -3600, 0⟩, ⟨1999, 2099, 10, .last 0, .standard, -3600, 0⟩]

def macau : List Changeover :=
  [⟨1965, 1973, 4, .onOrAfter 16 0, .standard, 12600, 3600⟩,
    ⟨1967, 1976, 10, .onOrAfter 16 0, .standard, 9000, 0⟩,
    ⟨1973, 1973, 12, .date 30, .standard, 12600, 3600⟩,
    ⟨1975, 1976, 4, .onOrAfter 16 0, .standard, 12600, 3600⟩,
    ⟨1979, 1979, 5, .date 13, .standard, 12600, 3600⟩,
    ⟨1979, 1979, 10, .onOrAfter 16 0, .standard, 9000, 0⟩]

def mauritius : List Changeover :=
  [⟨1982, 1982, 10, .date 10, .standard, 0, 3600⟩, ⟨1983, 1983, 3, .date 21, .standard, -3600, 0⟩,
    ⟨2008, 2008, 10, .last 0, .standard, 7200, 3600⟩, ⟨2009, 2009, 3, .last 0, .standard, 3600, 0⟩]

def mongolia : List Changeover :=
  [⟨1983, 1984, 4, .date 1, .standard, 0, 3600⟩, ⟨1983, 1983, 10, .date 1, .standard, -3600, 0⟩,
    ⟨1985, 1998, 3, .last 0, .standard, 0, 3600⟩, ⟨1984, 1998, 9, .last 0, .standard, -3600, 0⟩,
    ⟨2001, 2001, 4, .last 6, .standard, 7200, 3600⟩, ⟨2001, 2006, 9, .last 6, .standard, 3600, 0⟩,
    ⟨2002, 2006, 3, .last 6, .standard, 7200, 3600⟩,
    ⟨2015, 2016, 3, .last 6, .standard, 7200, 3600⟩, ⟨2015, 2016, 9, .last 6, .standard, -3600, 0⟩]

def pakistan : List Changeover :=
  [⟨2002, 2002, 4, .onOrAfter 2 0, .standard, 0, 3600⟩,
    ⟨2002, 2002, 10, .onOrAfter 2 0, .standard, -3600, 0⟩,
    ⟨2008, 2008, 6, .date 1, .standard, 0, 3600⟩, ⟨2008, 2009, 11, .date 1, .standard, -3600, 0⟩,
    ⟨2009, 2009, 4, .date 15, .standard, 0, 3600⟩]

def palestine : List Changeover :=
  [⟨1999, 2005, 4, .onOrAfter 15 5, .standard, 0, 3600⟩,
    ⟨1999, 2003, 10, .onOrAfter 15 5, .standard, -3600, 0⟩,
    ⟨2004, 2004, 10, .date 1, .standard, 0, 0⟩, ⟨2005, 2005, 10, .date 4, .standard, 3600, 0⟩,
    ⟨2006, 2007, 4, .date 1, .standard, 0, 3600⟩, ⟨2006, 2006, 9, .date 22, .standard, -3600, 0⟩,
    ⟨2007, 2007, 9, .date 13, .standard, 3600, 0⟩, ⟨2008, 2009, 3, .last 5, .standard, 0, 3600⟩,
    ⟨2008, 2008, 9, .date 1, .standard, -3600, 0⟩, ⟨2009, 2009, 9, .date 4, .standard, 0, 0⟩,
    ⟨2010, 2010, 3, .date 26, .standard, 0, 3600⟩, ⟨2010, 2010, 8, .date 11, .standard, -3600, 0⟩,
    ⟨2011, 2011, 4, .date 1, .standard, 60, 3600⟩, ⟨2011, 2011, 8, .date 1, .standard, -3600, 0⟩,
    ⟨2011, 2011, 8, .date 30, .standard, 0, 3600⟩, ⟨2011, 2011, 9, .date 30, .standard, -3600, 0⟩,
    ⟨2012, 2014, 3, .last 4, .standard, 86400, 3600⟩, ⟨2012, 2012, 9, .date 21, .standard, 0, 0⟩,
    ⟨2013, 2013, 9, .date 27, .standard, -3600, 0⟩, ⟨2014, 2014, 10, .date 24, .standard, -3600, 0⟩,
    ⟨2015, 2015, 3, .date 28, .standard, 0, 3600⟩, ⟨2015, 2015, 10, .date 23, .standard, 0, 0⟩,
    ⟨2016, 2018, 3, .onOrBefore 30 6, .standard, 3600, 3600⟩,
    ⟨2016, 2018, 10, .onOrBefore 30 6, .standard, 0, 0⟩,
    ⟨2019, 2019, 3, .date 29, .standard, 0, 3600⟩,
    ⟨2019, 2019, 10, .onOrBefore 30 6, .standard, -3600, 0⟩,
    ⟨2020, 2021, 3, .onOrBefore 30 6, .standard, 0, 3600⟩,
    ⟨2020, 2020, 10, .date 24, .standard, 0, 0⟩, ⟨2021, 2021, 10, .date 29, .standard, 0, 0⟩,
    ⟨2022, 2022, 3, .date 27, .standard, 0, 3600⟩,
    ⟨2022, 2035, 10, .onOrBefore 30 6, .standard, 3600, 0⟩,
    ⟨2023, 2023, 4, .date 29, .standard, 7200, 3600⟩,
    ⟨2024, 2024, 4, .date 20, .standard, 7200, 3600⟩,
    ⟨2025, 2025, 4, .date 12, .standard, 7200, 3600⟩,
    ⟨2026, 2054, 3, .onOrBefore 30 6, .standard, 7200, 3600⟩,
    ⟨2036, 2036, 10, .date 18, .standard, 3600, 0⟩, ⟨2037, 2037, 10, .date 10, .standard, 3600, 0⟩,
    ⟨2038, 2038, 9, .date 25, .standard, 3600, 0⟩, ⟨2039, 2039, 9, .date 17, .standard, 3600, 0⟩,
    ⟨2040, 2040, 9, .date 1, .standard, 3600, 0⟩, ⟨2040, 2040, 10, .date 20, .standard, 7200, 3600⟩,
    ⟨2040, 2067, 10, .onOrBefore 30 6, .standard, 3600, 0⟩,
    ⟨2041, 2041, 8, .date 24, .standard, 3600, 0⟩, ⟨2041, 2041, 10, .date 5, .standard, 7200, 3600⟩,
    ⟨2042, 2042, 8, .date 16, .standard, 3600, 0⟩, ⟨2042, 2042, 9, .date 27, .standard, 7200, 3600⟩,
    ⟨2043, 2043, 8, .date 1, .standard, 3600, 0⟩, ⟨2043, 2043, 9, .date 19, .standard, 7200, 3600⟩,
    ⟨2044, 2044, 7, .date 23, .standard, 3600, 0⟩, ⟨2044, 2044, 9, .date 3, .standard, 7200, 3600⟩,
    ⟨2045, 2045, 7, .date 15, .standard, 3600, 0⟩, ⟨2045, 2045, 8, .date 26, .standard, 7200, 3600⟩,
    ⟨2046, 2046, 6, .date 30, .standard, 3600, 0⟩, ⟨2046, 2046, 8, .date 18, .standard, 7200, 3600⟩,
    ⟨2047, 2047, 6, .date 22, .standard, 3600, 0⟩, ⟨2047, 2047, 8, .date 3, .standard, 7200, 3600⟩,
    ⟨2048, 2048, 6, .date 6, .standard, 3600, 0⟩, ⟨2048, 2048, 7, .date 25, .standard, 7200, 3600⟩,
    ⟨2049, 2049, 5, .date 29, .standard, 3600, 0⟩, ⟨2049, 2049, 7, .date 10, .standard, 7200, 3600⟩,
    ⟨2050, 2050, 5, .date 21, .standard, 3600, 0⟩, ⟨2050, 2050, 7, .date 2, .standard, 7200, 3600⟩,
    ⟨2051, 2051, 5, .date 6, .standard, 3600, 0⟩, ⟨2051, 2051, 6, .date 24, .standard, 7200, 3600⟩,
    ⟨2052, 2052, 4, .date 27, .standard, 3600, 0⟩, ⟨2052, 2052, 6, .date 8, .standard, 7200, 3600⟩,
    ⟨2053, 2053, 4, .date 12, .standard, 3600, 0⟩, ⟨2053, 2053, 5, .date 31, .standard, 7200, 3600⟩,
    ⟨2054, 2054, 4, .date 4, .standard, 3600, 0⟩, ⟨2054, 2054, 5, .date 23, .standard, 7200, 3600⟩,
    ⟨2055, 2055, 5, .date 8, .standard, 7200, 3600⟩,
    ⟨2056, 2056, 4, .date 29, .standard, 7200, 3600⟩,
    ⟨2057, 2057, 4, .date 14, .standard, 7200, 3600⟩,
    ⟨2058, 2058, 4, .date 6, .standard, 7200, 3600⟩,
    ⟨2059, 2099, 3, .onOrBefore 30 6, .standard, 7200, 3600⟩,
    ⟨2068, 2068, 10, .date 20, .standard, 3600, 0⟩, ⟨2069, 2069, 10, .date 12, .standard, 3600, 0⟩,
    ⟨2070, 2070, 10, .date 4, .standard, 3600, 0⟩, ⟨2071, 2071, 9, .date 19, .standard, 3600, 0⟩,
    ⟨2072, 2072, 9, .date 10, .standard, 3600, 0⟩,
    ⟨2072, 2072, 10, .date 22, .standard, 7200, 3600⟩,
    ⟨2072, 2099, 10, .onOrBefore 30 6, .standard, 3600, 0⟩,
    ⟨2073, 2073, 9, .date 2, .standard, 3600, 0⟩, ⟨2073, 2073, 10, .date 14, .standard, 7200, 3600⟩,
    ⟨2074, 2074, 8, .date 18, .standard, 3600, 0⟩, ⟨2074, 2074, 10, .date 6, .standard, 7200, 3600⟩,
    ⟨2075, 2075, 8, .date 10, .standard, 3600, 0⟩, ⟨2075, 2075, 9, .date 21, .standard, 7200, 3600⟩,
    ⟨2076, 2076, 7, .date 25, .standard, 3600, 0⟩, ⟨2076, 2076, 9, .date 12, .standard, 7200, 3600⟩,
    ⟨2077, 2077, 7, .date 17, .standard, 3600, 0⟩, ⟨2077, 2077, 9, .date 4, .standard, 7200, 3600⟩,
    ⟨2078, 2078, 7, .date 9, .standard, 3600, 0⟩, ⟨2078, 2078, 8, .date 20, .standard, 7200, 3600⟩,
    ⟨2079, 2079, 6, .date 24, .standard, 3600, 0⟩, ⟨2079, 2079, 8, .date 12, .standard, 7200, 3600⟩,
    ⟨2080, 2080, 6, .date 15, .standard, 3600, 0⟩, ⟨2080, 2080, 7, .date 27, .standard, 7200, 3600⟩,
    ⟨2081, 2081, 6, .date 7, .standard, 3600, 0⟩, ⟨2081, 2081, 7, .date 19, .standard, 7200, 3600⟩,
    ⟨2082, 2082, 5, .date 23, .standard, 3600, 0⟩, ⟨2082, 2082, 7, .date 11, .standard, 7200, 3600⟩,
    ⟨2083, 2083, 5, .date 15, .standard, 3600, 0⟩, ⟨2083, 2083, 6, .date 26, .standard, 7200, 3600⟩,
    ⟨2084, 2084, 4, .date 29, .standard, 3600, 0⟩, ⟨2084, 2084, 6, .date 17, .standard, 7200, 3600⟩,
    ⟨2085, 2085, 4, .date 21, .standard, 3600, 0⟩, ⟨2085, 2085, 6, .date 9, .standard, 7200, 3600⟩,
    ⟨2086, 2086, 4, .date 13, .standard, 3600, 0⟩, ⟨2086, 2086, 5, .date 25, .standard, 7200, 3600⟩]

def philippines : List Changeover :=
  [⟨1977, 1977, 3, .date 27, .standard, 86400, 3600⟩,
    ⟨1977, 1977, 9, .date 21, .standard, 82800, 0⟩, ⟨1990, 1990, 5, .date 21, .standard, 0, 3600⟩,
    ⟨1990, 1990, 7, .date 28, .standard, 82800, 0⟩]

def syria : List Changeover :=
  [⟨1966, 1976, 10, .date 1, .standard, 3600, 0⟩, ⟨1967, 1978, 5, .date 1, .standard, 7200, 3600⟩,
    ⟨1977, 1978, 9, .date 1, .standard, 3600, 0⟩, ⟨1983, 1984, 4, .date 9, .standard, 7200, 3600⟩,
    ⟨1983, 1984, 10, .date 1, .standard, 3600, 0⟩, ⟨1986, 1986, 2, .date 16, .standard, 7200, 3600⟩,
    ⟨1986, 1986, 10, .date 9, .standard, 3600, 0⟩, ⟨1987, 1987, 3, .date 1, .standard, 7200, 3600⟩,
    ⟨1987, 1988, 10, .date 31, .standard, 3600, 0⟩,
    ⟨1988, 1988, 3, .date 15, .standard, 7200, 3600⟩,
    ⟨1989, 1989, 3, .date 31, .standard, 7200, 3600⟩, ⟨1989, 1989, 10, .date 1, .standard, 3600, 0⟩,
    ⟨1990, 1990, 4, .date 1, .standard, 7200, 3600⟩, ⟨1990, 1990, 9, .date 30, .standard, 3600, 0⟩,
    ⟨1991, 1991, 4, .date 1, .standard, 0, 3600⟩, ⟨1991, 1992, 10, .date 1, .standard, -3600, 0⟩,
    ⟨1992, 1992, 4, .date 8, .standard, 0, 3600⟩, ⟨1993, 1993, 3, .date 26, .standard, 0, 3600⟩,
    ⟨1993, 1993, 9, .date 25, .standard, -3600, 0⟩, ⟨1994, 1996, 4, .date 1, .standard, 0, 3600⟩,
    ⟨1994, 2005, 10, .date 1, .standard, -3600, 0⟩, ⟨1997, 1998, 3, .last 1, .standard, 0, 3600⟩,
    ⟨1999, 2006, 4, .date 1, .standard, 0, 3600⟩, ⟨2006, 2006, 9, .date 22, .standard, -3600, 0⟩,
    ⟨2007, 2007, 3, .last 5, .standard, 0, 3600⟩,
    ⟨2007, 2007, 11, .onOrAfter 1 5, .standard, -3600, 0⟩,
    ⟨2008, 2008, 4, .onOrAfter 1 5, .standard, 0, 3600⟩,
    ⟨2008, 2008, 11, .date 1, .standard, -3600, 0⟩, ⟨2009, 2009, 3, .last 5, .standard, 0, 3600⟩,
    ⟨2010, 2011, 4, .onOrAfter 1 5, .standard, 0, 3600⟩,
    ⟨2012, 2022, 3, .last 5, .standard, 0, 3600⟩, ⟨2009, 2022, 10, .last 5, .standard, -3600, 0⟩]

def taiwan : List Changeover :=
  [⟨1974, 1975, 4, .date 1, .standard, 0, 3600⟩, ⟨1974, 1975, 10, .date 1, .standard, -3600, 0⟩,
    ⟨1979, 1979, 7, .date 1, .standard, 0, 3600⟩, ⟨1979, 1979, 10, .date 1, .standard, -3600, 0⟩]

def asianPlaces : List Place :=
  [⟨["Asia/Almaty"], [(670363200, ⟨21600, russia⟩), (686091600, ⟨21600, []⟩),
      (695768400, ⟨18000, []⟩), (1111867200, ⟨21600, russia⟩), (1709229600, ⟨21600, []⟩)],
      ⟨18000, []⟩⟩,
    ⟨["Asia/Amman"], [(1666908000, ⟨7200, jordan⟩)], ⟨10800, []⟩⟩,
    ⟨["Asia/Anadyr"], [(386420400, ⟨46800, russia⟩), (402231600, ⟨46800, []⟩),
      (670341600, ⟨43200, russia⟩), (686070000, ⟨43200, []⟩), (695746800, ⟨39600, []⟩),
      (1269698400, ⟨43200, russia⟩), (1288450800, ⟨43200, []⟩), (1301151600, ⟨39600, []⟩)],
      ⟨43200, []⟩⟩,
    ⟨["Asia/Aqtau"], [(370724400, ⟨18000, []⟩), (402256800, ⟨21600, []⟩),
      (670366800, ⟨18000, russia⟩), (686095200, ⟨18000, []⟩), (695772000, ⟨14400, []⟩),
      (780440400, ⟨18000, russia⟩), (796168800, ⟨14400, []⟩), (1099173600, ⟨14400, russia⟩)],
      ⟨18000, []⟩⟩,
    ⟨["Asia/Aqtobe"], [(370720800, ⟨18000, russia⟩), (402256800, ⟨21600, []⟩),
      (670366800, ⟨18000, russia⟩), (686095200, ⟨18000, []⟩), (695772000, ⟨14400, []⟩),
      (1111870800, ⟨18000, russia⟩)], ⟨18000, []⟩⟩,
    ⟨["Asia/Ashgabat", "Asia/Ashkhabad"], [(670366800, ⟨18000, russia⟩), (686095200, ⟨18000, []⟩),
      (695772000, ⟨14400, []⟩)], ⟨18000, []⟩⟩,
    ⟨["Asia/Atyrau"], [(370724400, ⟨18000, []⟩), (402256800, ⟨21600, []⟩),
      (670366800, ⟨18000, russia⟩), (686095200, ⟨18000, []⟩), (695772000, ⟨14400, []⟩),
      (922568400, ⟨18000, russia⟩), (941320800, ⟨18000, []⟩), (1099173600, ⟨14400, russia⟩)],
      ⟨18000, []⟩⟩,
    ⟨["Asia/Baghdad"], [], ⟨10800, iraq⟩⟩,
    ⟨["Asia/Bahrain", "Asia/Qatar"], [(76190400, ⟨14400, []⟩)], ⟨10800, []⟩⟩,
    ⟨["Asia/Baku"], [(670370400, ⟨14400, russia⟩), (686098800, ⟨14400, []⟩),
      (717548400, ⟨10800, russia⟩), (828234000, ⟨14400, []⟩), (859680000, ⟨14400, europeanUnion⟩)],
      ⟨14400, azerbaijan⟩⟩,
    ⟨["Asia/Barnaul"], [(670359600, ⟨25200, russia⟩), (686088000, ⟨25200, []⟩),
      (695764800, ⟨21600, []⟩), (801590400, ⟨25200, russia⟩), (1301169600, ⟨21600, russia⟩),
      (1414263600, ⟨25200, []⟩), (1459022400, ⟨21600, []⟩)], ⟨25200, []⟩⟩,
    ⟨["Asia/Beirut"], [], ⟨7200, lebanon⟩⟩,
    ⟨["Asia/Bishkek"], [(670363200, ⟨21600, russia⟩), (683582400, ⟨21600, []⟩)],
      ⟨18000, kyrgyzstan⟩⟩,
    ⟨["Asia/Chita"], [(670352400, ⟨32400, russia⟩), (686080800, ⟨32400, []⟩),
      (695757600, ⟨28800, []⟩), (1301158800, ⟨32400, russia⟩), (1414252800, ⟨36000, []⟩),
      (1459015200, ⟨28800, []⟩)], ⟨32400, []⟩⟩,
    ⟨["Asia/Choibalsan", "Asia/Ulaanbaatar", "Asia/Ulan_Bator"], [(252435600, ⟨25200, []⟩)],
      ⟨28800, mongolia⟩⟩,
    ⟨["Asia/Chongqing", "Asia/Chungking", "Asia/Harbin", "Asia/Shanghai", "PRC"], [],
      ⟨28800, china⟩⟩,
    ⟨["Asia/Colombo"], [(832962600, ⟨19800, []⟩), (846266400, ⟨23400, []⟩),
      (1145039400, ⟨21600, []⟩)], ⟨19800, []⟩⟩,
    ⟨["Asia/Dacca", "Asia/Dhaka"], [], ⟨21600, bangladesh⟩⟩,
    ⟨["Asia/Damascus"], [(1666904400, ⟨7200, syria⟩)], ⟨10800, []⟩⟩,
    ⟨["Asia/Dili"], [(199897200, ⟨32400, []⟩), (969120000, ⟨28800, []⟩)], ⟨32400, []⟩⟩,
    ⟨["Asia/Dushanbe"], [(670363200, ⟨21600, russia⟩), (684363600, ⟨21600, []⟩)], ⟨18000, []⟩⟩,
    ⟨["Asia/Famagusta"], [(909277200, ⟨7200, cyprus⟩), (1477789200, ⟨7200, europeanUnion⟩),
      (1509238800, ⟨10800, []⟩)], ⟨7200, europeanUnion⟩⟩,
    ⟨["Asia/Gaza"], [(826840800, ⟨7200, israel⟩), (924213600, ⟨7200, jordan⟩),
      (1219957200, ⟨7200, palestine⟩), (1238104800, ⟨7200, []⟩), (1269554400, ⟨7200, palestine⟩),
      (1269640860, ⟨7200, []⟩), (1314655200, ⟨7200, palestine⟩), (1333058400, ⟨7200, []⟩)],
      ⟨7200, palestine⟩⟩,
    ⟨["Asia/Hebron"], [(826840800, ⟨7200, israel⟩), (924213600, ⟨7200, jordan⟩)],
      ⟨7200, palestine⟩⟩,
    ⟨["Asia/Ho_Chi_Minh", "Asia/Saigon"], [(171820800, ⟨28800, []⟩)], ⟨25200, []⟩⟩,
    ⟨["Asia/Hong_Kong", "Hongkong"], [], ⟨28800, hongKong⟩⟩,
    ⟨["Asia/Hovd"], [(252439200, ⟨21600, []⟩)], ⟨25200, mongolia⟩⟩,
    ⟨["Asia/Irkutsk"], [(670356000, ⟨28800, russia⟩), (686084400, ⟨28800, []⟩),
      (695761200, ⟨25200, []⟩), (1301162400, ⟨28800, russia⟩), (1414256400, ⟨32400, []⟩)],
      ⟨28800, []⟩⟩,
    ⟨["Asia/Jerusalem", "Asia/Tel_Aviv", "Israel"], [], ⟨7200, israel⟩⟩,
    ⟨["Asia/Kamchatka"], [(670341600, ⟨43200, russia⟩), (686070000, ⟨43200, []⟩),
      (695746800, ⟨39600, []⟩), (1269698400, ⟨43200, russia⟩), (1288450800, ⟨43200, []⟩),
      (1301151600, ⟨39600, []⟩)], ⟨43200, []⟩⟩,
    ⟨["Asia/Karachi"], [], ⟨18000, pakistan⟩⟩,
    ⟨["Asia/Kathmandu", "Asia/Katmandu"], [(504901800, ⟨19800, []⟩)], ⟨20700, []⟩⟩,
    ⟨["Asia/Khandyga"], [(670352400, ⟨32400, russia⟩), (686080800, ⟨32400, []⟩),
      (695757600, ⟨28800, []⟩), (1072882800, ⟨32400, russia⟩), (1301155200, ⟨36000, russia⟩),
      (1315832400, ⟨39600, []⟩), (1414252800, ⟨36000, []⟩)], ⟨32400, []⟩⟩,
    ⟨["Asia/Krasnoyarsk"], [(670359600, ⟨25200, russia⟩), (686088000, ⟨25200, []⟩),
      (695764800, ⟨21600, []⟩), (1301166000, ⟨25200, russia⟩), (1414260000, ⟨28800, []⟩)],
      ⟨25200, []⟩⟩,
    ⟨["Asia/Kuala_Lumpur", "Asia/Singapore", "Singapore"], [(378662400, ⟨27000, []⟩)], ⟨28800, []⟩⟩,
    ⟨["Asia/Macao", "Asia/Macau"], [], ⟨28800, macau⟩⟩,
    ⟨["Asia/Magadan"], [(670345200, ⟨39600, russia⟩), (686073600, ⟨39600, []⟩),
      (695750400, ⟨36000, []⟩), (1301151600, ⟨39600, russia⟩), (1414245600, ⟨43200, []⟩),
      (1461427200, ⟨36000, []⟩)], ⟨39600, []⟩⟩,
    ⟨["Asia/Manila"], [], ⟨28800, philippines⟩⟩,
    ⟨["Asia/Novokuznetsk"], [(670359600, ⟨25200, russia⟩), (686088000, ⟨25200, []⟩),
      (695764800, ⟨21600, []⟩), (1269716400, ⟨25200, russia⟩), (1288468800, ⟨25200, []⟩),
      (1301169600, ⟨21600, []⟩)], ⟨25200, []⟩⟩,
    ⟨["Asia/Novosibirsk"], [(670359600, ⟨25200, russia⟩), (686088000, ⟨25200, []⟩),
      (695764800, ⟨21600, []⟩), (738086400, ⟨25200, russia⟩), (1301169600, ⟨21600, russia⟩),
      (1414263600, ⟨25200, []⟩), (1469304000, ⟨21600, []⟩)], ⟨25200, []⟩⟩,
    ⟨["Asia/Omsk"], [(670363200, ⟨21600, russia⟩), (686091600, ⟨21600, []⟩),
      (695768400, ⟨18000, []⟩), (1301169600, ⟨21600, russia⟩), (1414263600, ⟨25200, []⟩)],
      ⟨21600, []⟩⟩,
    ⟨["Asia/Oral"], [(370720800, ⟨18000, russia⟩), (402256800, ⟨21600, []⟩),
      (606862800, ⟨18000, russia⟩), (622591200, ⟨18000, []⟩), (695772000, ⟨14400, russia⟩),
      (717544800, ⟨18000, []⟩), (1099173600, ⟨14400, russia⟩)], ⟨18000, []⟩⟩,
    ⟨["Asia/Pontianak"], [(567964800, ⟨28800, []⟩)], ⟨25200, []⟩⟩,
    ⟨["Asia/Pyongyang"], [(1439564400, ⟨32400, []⟩), (1525446000, ⟨30600, []⟩)], ⟨32400, []⟩⟩,
    ⟨["Asia/Qostanay"], [(370720800, ⟨18000, russia⟩), (402256800, ⟨21600, []⟩),
      (670366800, ⟨18000, russia⟩), (686095200, ⟨18000, []⟩), (695772000, ⟨14400, []⟩),
      (1099170000, ⟨18000, russia⟩), (1709229600, ⟨21600, []⟩)], ⟨18000, []⟩⟩,
    ⟨["Asia/Qyzylorda"], [(370720800, ⟨18000, russia⟩), (402256800, ⟨21600, []⟩),
      (670366800, ⟨18000, russia⟩), (695768400, ⟨18000, []⟩), (717541200, ⟨21600, []⟩),
      (1099170000, ⟨18000, russia⟩), (1545328800, ⟨21600, []⟩)], ⟨18000, []⟩⟩,
    ⟨["Asia/Sakhalin"], [(670345200, ⟨39600, russia⟩), (686073600, ⟨39600, []⟩),
      (695750400, ⟨36000, []⟩), (859647600, ⟨39600, russia⟩), (877795200, ⟨39600, []⟩),
      (1301155200, ⟨36000, russia⟩), (1414249200, ⟨39600, []⟩), (1459008000, ⟨36000, []⟩)],
      ⟨39600, []⟩⟩,
    ⟨["Asia/Samarkand"], [(370720800, ⟨18000, russia⟩), (402256800, ⟨21600, []⟩),
      (701816400, ⟨18000, russia⟩)], ⟨18000, []⟩⟩,
    ⟨["Asia/Seoul", "ROK"], [], ⟨32400, korea⟩⟩,
    ⟨["Asia/Srednekolymsk"], [(670345200, ⟨39600, russia⟩), (686073600, ⟨39600, []⟩),
      (695750400, ⟨36000, []⟩), (1301151600, ⟨39600, russia⟩), (1414245600, ⟨43200, []⟩)],
      ⟨39600, []⟩⟩,
    ⟨["Asia/Taipei", "ROC"], [], ⟨28800, taiwan⟩⟩,
    ⟨["Asia/Tashkent"], [(670363200, ⟨21600, russia⟩), (686091600, ⟨21600, []⟩)], ⟨18000, []⟩⟩,
    ⟨["Asia/Tbilisi"], [(670370400, ⟨14400, russia⟩), (686098800, ⟨14400, []⟩),
      (780436800, ⟨10800, easternEurasia⟩), (846356400, ⟨14400, easternEurasia⟩),
      (877806000, ⟨18000, []⟩), (1088276400, ⟨14400, easternEurasia⟩),
      (1130626800, ⟨10800, russia⟩)], ⟨14400, []⟩⟩,
    ⟨["Asia/Tehran", "Iran"], [(246223800, ⟨12600, iran⟩), (279576000, ⟨14400, iran⟩)],
      ⟨12600, iran⟩⟩,
    ⟨["Asia/Thimbu", "Asia/Thimphu"], [(560025000, ⟨19800, []⟩)], ⟨21600, []⟩⟩,
    ⟨["Asia/Tomsk"], [(670359600, ⟨25200, russia⟩), (686088000, ⟨25200, []⟩),
      (695764800, ⟨21600, []⟩), (1020193200, ⟨25200, russia⟩), (1301169600, ⟨21600, russia⟩),
      (1414263600, ⟨25200, []⟩), (1464465600, ⟨21600, []⟩)], ⟨25200, []⟩⟩,
    ⟨["Asia/Ust-Nera"], [(354898800, ⟨32400, []⟩), (670345200, ⟨39600, russia⟩),
      (686073600, ⟨39600, []⟩), (695750400, ⟨36000, []⟩), (1301151600, ⟨39600, russia⟩),
      (1315828800, ⟨43200, []⟩), (1414249200, ⟨39600, []⟩)], ⟨36000, []⟩⟩,
    ⟨["Asia/Vladivostok"], [(670348800, ⟨36000, russia⟩), (686077200, ⟨36000, []⟩),
      (695754000, ⟨32400, []⟩), (1301155200, ⟨36000, russia⟩), (1414249200, ⟨39600, []⟩)],
      ⟨36000, []⟩⟩,
    ⟨["Asia/Yakutsk"], [(670352400, ⟨32400, russia⟩), (686080800, ⟨32400, []⟩),
      (695757600, ⟨28800, []⟩), (1301158800, ⟨32400, russia⟩), (1414252800, ⟨36000, []⟩)],
      ⟨32400, []⟩⟩,
    ⟨["Asia/Yekaterinburg"], [(670366800, ⟨18000, russia⟩), (686095200, ⟨18000, []⟩),
      (695772000, ⟨14400, []⟩), (1301173200, ⟨18000, russia⟩), (1414267200, ⟨21600, []⟩)],
      ⟨18000, []⟩⟩,
    ⟨["Asia/Yerevan"], [(670370400, ⟨14400, russia⟩), (686098800, ⟨14400, []⟩),
      (811897200, ⟨10800, russia⟩), (859672800, ⟨14400, []⟩), (1301176800, ⟨14400, russia⟩)],
      ⟨14400, armenia⟩⟩,
    ⟨["Indian/Chagos"], [(820436400, ⟨18000, []⟩)], ⟨21600, []⟩⟩,
    ⟨["Indian/Mauritius"], [], ⟨14400, mauritius⟩⟩]

end FleetRollout.Calendar
