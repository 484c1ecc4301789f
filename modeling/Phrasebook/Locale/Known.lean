import Phrasebook.Locale
import Phrasebook.Plural.Languages

/-! Known locales, a part of the Common Locale Data Repository: their names, the symbols that group
digits and mark the decimals, their plural rules, and the identifiers that lead to them.  Theorems are
stated for every catalog; only runs and examples use this one. -/

namespace Phrasebook.Locale

open Plural.Rules
open Text (isDigit lit)

/-- Commas between groups and a point before the decimals. -/
def point (name : String) (rules : Plural.Rules) : Locale := ⟨lit name, ','.toNat, '.'.toNat, rules⟩

/-- Points between groups and a comma before the decimals. -/
def comma (name : String) (rules : Plural.Rules) : Locale := ⟨lit name, '.'.toNat, ','.toNat, rules⟩

/-- No-break spaces between groups and a comma before the decimals. -/
def spaced (name : String) (rules : Plural.Rules) : Locale := ⟨lit name, 0xA0, ','.toNat, rules⟩

/-- Narrow no-break spaces between groups and a comma before the decimals. -/
def narrow (name : String) (rules : Plural.Rules) : Locale := ⟨lit name, 0x202F, ','.toNat, rules⟩

/-- Apostrophes between groups and a point before the decimals. -/
def apostrophe (name : String) (rules : Plural.Rules) : Locale := ⟨lit name, 0x2019, '.'.toNat, rules⟩

/-- The locales, in the order of their names. -/
def knownTable : List Locale := [
  point "am" hindi,
  point "ar" arabic,
  comma "az" turkish,
  point "az_Cyrl" turkish,
  comma "az_Latn_AZ" turkish,
  spaced "be" belarusian,
  spaced "bg" turkish,
  spaced "blo" colognian,
  point "bn" hindi,
  spaced "br" breton,
  comma "bs" croatian,
  comma "ca" italian,
  comma "ca_ES" italian,
  comma "ca_ES_VALENCIA" italian,
  point "ceb" filipino,
  spaced "cs" czech,
  point "cy" welsh,
  comma "da" danish,
  comma "de" english,
  comma "de_AT" english,
  apostrophe "de_CH" english,
  comma "de_DE" english,
  apostrophe "de_LI" english,
  comma "dsb" sorbian,
  comma "el" turkish,
  point "en" english,
  point "en_150" english,
  apostrophe "en_CH" english,
  point "en_GB" english,
  point "en_IN" english,
  spaced "en_SE" english,
  point "en_US" english,
  point "en_US_POSIX" english,
  spaced "en_ZA" english,
  comma "es" spanish,
  point "es_419" spanish,
  spaced "es_CR" spanish,
  point "es_MX" spanish,
  comma "es_PY" spanish,
  spaced "et" english,
  point "fa" hindi,
  spaced "fi" english,
  point "fil" filipino,
  point "fil_PH" filipino,
  narrow "fr" french,
  spaced "fr_CA" french,
  narrow "fr_CH" french,
  narrow "fr_FR" french,
  point "ga" irish,
  point "gd" gaelic,
  apostrophe "gsw" turkish,
  point "gv" manx,
  point "he" hebrew,
  point "he_IL" hebrew,
  point "hi" hindi,
  comma "hr" croatian,
  spaced "hu" turkish,
  comma "id" japanese,
  comma "id_ID" japanese,
  comma "is" icelandic,
  comma "it" italian,
  point "ja" japanese,
  point "ko" japanese,
  point "ksh" colognian,
  point "kw" cornish,
  point "lag" langi,
  comma "lo" japanese,
  spaced "lt" lithuanian,
  spaced "lv" latvian,
  comma "mk" macedonian,
  point "mn_Mong" turkish,
  point "mt" maltese,
  point "naq" sami,
  spaced "nb_NO" turkish,
  comma "nl" english,
  spaced "no" turkish,
  point "pa" punjabi,
  spaced "pl" polish,
  comma "pt" portuguese,
  comma "pt_BR" portuguese,
  spaced "pt_PT" italian,
  apostrophe "rm" turkish,
  comma "ro" romanian,
  comma "ro_RO" romanian,
  point "root" japanese,
  spaced "ru" russian,
  spaced "ru_RU" russian,
  point "scn" italian,
  spaced "se" sami,
  spaced "shi" tachelhit,
  point "si" sinhala,
  spaced "sk" czech,
  comma "sl" slovenian,
  comma "sr" croatian,
  comma "sr_Cyrl_RS" croatian,
  comma "sr_Latn_RS" croatian,
  spaced "sv" english,
  point "th" japanese,
  comma "tr" turkish,
  comma "tr_TR" turkish,
  spaced "tzm" tamazight,
  spaced "uk" russian,
  point "ur" english,
  spaced "uz" turkish,
  comma "vi" japanese,
  point "yi_UA" english,
  point "zh" japanese,
  point "zh_Hans_CN" japanese,
  point "zh_Hans_MO" japanese,
  point "zh_Hant" japanese,
  point "zh_Hant_HK" japanese,
  point "zh_Hant_TW" japanese]

/-- Other codes of languages. -/
def knownLanguages : List (Text × Text) := [
  (lit "cmn", lit "zh"),
  (lit "in", lit "id"),
  (lit "iw", lit "he"),
  (lit "ji", lit "yi"),
  (lit "mo", lit "ro"),
  (lit "sh", lit "sr_Latn"),
  (lit "tl", lit "fil")]

/-- A language, a script and a territory. -/
def likelyOf (language script territory : String) : Identifier :=
  ⟨lit language, lit script, lit territory, [], []⟩

/-- Likely identifiers, most of them of languages alone. -/
def knownLikely : List (Text × Identifier) := [
  (lit "az", likelyOf "az" "Latn" "AZ"),
  (lit "en", likelyOf "en" "Latn" "US"),
  (lit "fil", likelyOf "fil" "Latn" "PH"),
  (lit "he", likelyOf "he" "Hebr" "IL"),
  (lit "id", likelyOf "id" "Latn" "ID"),
  (lit "ro", likelyOf "ro" "Latn" "RO"),
  (lit "sr", likelyOf "sr" "Cyrl" "RS"),
  (lit "und", likelyOf "en" "Latn" "US"),
  (lit "und_US", likelyOf "en" "Latn" "US"),
  (lit "yi", likelyOf "yi" "Hebr" "UA"),
  (lit "zh", likelyOf "zh" "Hans" "CN"),
  (lit "zh_HK", likelyOf "zh" "Hant" "HK"),
  (lit "zh_TW", likelyOf "zh" "Hant" "TW")]

theorem legible_of_mem_knownTable : ∀ row ∈ knownTable, row.Legible := by
  have hmarks : ∀ row ∈ knownTable, row.group ≠ row.decimal ∧ isDigit row.group = false ∧
      isDigit row.decimal = false ∧ row.group ∉ lit "+-" ∧ row.decimal ∉ lit "+-" := by
    decide +kernel
  intro row hrow
  obtain ⟨hne, hgroup, hdecimal, hgroup', hdecimal'⟩ := hmarks row hrow
  exact ⟨hne, hgroup, hdecimal, hgroup', hdecimal'⟩

theorem coarse_of_mem_knownTable : ∀ row ∈ knownTable, row.rules.Coarse := by decide +kernel

instance known : Catalog where
  table := knownTable
  languages := knownLanguages
  scripts := []
  territories := [(lit "YU", lit "RS")]
  variants := []
  likely := knownLikely
  legible := legible_of_mem_knownTable
  coarse := coarse_of_mem_knownTable

end Phrasebook.Locale
