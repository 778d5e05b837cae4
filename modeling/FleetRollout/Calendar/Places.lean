import FleetRollout.Calendar.Region.Africa
import FleetRollout.Calendar.Region.Asia
import FleetRollout.Calendar.Region.Oceania

set_option autoImplicit false

namespace FleetRollout.Calendar

-- By their seconds ahead of universal time.
def steadyNames : List (Int × List String) :=
  [(-43200, ["Etc/GMT+12"]),
    (-39600, ["Etc/GMT+11", "Pacific/Midway", "Pacific/Niue", "Pacific/Pago_Pago", "Pacific/Samoa",
      "US/Samoa"]),
    (-36000, ["Etc/GMT+10", "HST", "Pacific/Honolulu", "Pacific/Johnston", "Pacific/Tahiti",
      "US/Hawaii"]),
    (-34200, ["Pacific/Marquesas"]),
    (-32400, ["Etc/GMT+9", "Pacific/Gambier"]),
    (-28800, ["Etc/GMT+8"]),
    (-25200, ["America/Creston", "America/Phoenix", "Etc/GMT+7", "MST", "US/Arizona"]),
    (-21600, ["America/Regina", "Canada/Saskatchewan", "Etc/GMT+6"]),
    (-18000, ["America/Atikokan", "America/Cayman", "America/Coral_Harbour", "America/Panama",
      "EST", "Etc/GMT+5"]),
    (-14400, ["America/Anguilla", "America/Antigua", "America/Aruba", "America/Blanc-Sablon",
      "America/Curacao", "America/Dominica", "America/Grenada", "America/Guadeloupe",
      "America/Kralendijk", "America/La_Paz", "America/Lower_Princes", "America/Marigot",
      "America/Montserrat", "America/Port_of_Spain", "America/Puerto_Rico", "America/St_Barthelemy",
      "America/St_Kitts", "America/St_Lucia", "America/St_Thomas", "America/St_Vincent",
      "America/Tortola", "America/Virgin", "Etc/GMT+4"]),
    (-10800, ["America/Cayenne", "Etc/GMT+3"]),
    (-7200, ["Atlantic/South_Georgia", "Etc/GMT+2"]),
    (-3600, ["Etc/GMT+1"]),
    (0, ["Africa/Abidjan", "Africa/Accra", "Africa/Bamako", "Africa/Banjul", "Africa/Conakry",
      "Africa/Dakar", "Africa/Freetown", "Africa/Lome", "Africa/Nouakchott", "Africa/Ouagadougou",
      "Africa/Timbuktu", "Atlantic/Reykjavik", "Atlantic/St_Helena", "Etc/GMT", "Etc/GMT+0",
      "Etc/GMT-0", "Etc/GMT0", "Etc/Greenwich", "Etc/UCT", "Etc/UTC", "Etc/Universal", "Etc/Zulu",
      "GMT", "GMT+0", "GMT-0", "GMT0", "Greenwich", "Iceland", "UCT", "UTC", "Universal", "Zulu"]),
    (3600, ["Africa/Bangui", "Africa/Brazzaville", "Africa/Douala", "Africa/Kinshasa",
      "Africa/Lagos", "Africa/Libreville", "Africa/Luanda", "Africa/Malabo", "Africa/Niamey",
      "Africa/Porto-Novo", "Etc/GMT-1"]),
    (7200, ["Africa/Blantyre", "Africa/Bujumbura", "Africa/Gaborone", "Africa/Harare",
      "Africa/Johannesburg", "Africa/Kigali", "Africa/Lubumbashi", "Africa/Lusaka", "Africa/Maputo",
      "Africa/Maseru", "Africa/Mbabane", "Etc/GMT-2"]),
    (10800, ["Africa/Addis_Ababa", "Africa/Asmara", "Africa/Asmera", "Africa/Dar_es_Salaam",
      "Africa/Djibouti", "Africa/Kampala", "Africa/Mogadishu", "Africa/Nairobi", "Antarctica/Syowa",
      "Asia/Aden", "Asia/Kuwait", "Asia/Riyadh", "Etc/GMT-3", "Indian/Antananarivo",
      "Indian/Comoro", "Indian/Mayotte"]),
    (14400, ["Asia/Dubai", "Asia/Muscat", "Etc/GMT-4", "Indian/Mahe", "Indian/Reunion"]),
    (16200, ["Asia/Kabul"]),
    (18000, ["Etc/GMT-5", "Indian/Kerguelen", "Indian/Maldives"]),
    (19800, ["Asia/Calcutta", "Asia/Kolkata"]),
    (21600, ["Asia/Kashgar", "Asia/Urumqi", "Etc/GMT-6"]),
    (23400, ["Asia/Rangoon", "Asia/Yangon", "Indian/Cocos"]),
    (25200, ["Asia/Bangkok", "Asia/Jakarta", "Asia/Phnom_Penh", "Asia/Vientiane", "Etc/GMT-7",
      "Indian/Christmas"]),
    (28800, ["Asia/Brunei", "Asia/Kuching", "Asia/Makassar", "Asia/Ujung_Pandang", "Etc/GMT-8"]),
    (32400, ["Asia/Jayapura", "Asia/Tokyo", "Etc/GMT-9", "Japan", "Pacific/Palau"]),
    (34200, ["Australia/Darwin", "Australia/North"]),
    (36000, ["Antarctica/DumontDUrville", "Etc/GMT-10", "Pacific/Chuuk", "Pacific/Port_Moresby",
      "Pacific/Truk", "Pacific/Yap"]),
    (39600, ["Etc/GMT-11", "Pacific/Guadalcanal", "Pacific/Pohnpei", "Pacific/Ponape"]),
    (43200, ["Etc/GMT-12", "Pacific/Funafuti", "Pacific/Majuro", "Pacific/Tarawa", "Pacific/Wake",
      "Pacific/Wallis"]),
    (46800, ["Etc/GMT-13"]),
    (50400, ["Etc/GMT-14"])]

def steadyPlaces : List Place :=
  steadyNames.map fun (standard, names) => { names, zone := { present := { standard } } }

def places : List Place :=
  steadyPlaces ++ europeanPlaces ++ americanPlaces ++ asianPlaces ++ africanPlaces ++ oceanicPlaces

def Zone.named? (name : String) : Option Zone :=
  (places.find? fun place => place.names.contains name).map (·.zone)

end FleetRollout.Calendar
