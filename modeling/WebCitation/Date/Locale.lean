import WebCitation.Error.Config

/-! The languages in which dates are read: names of months, words without meaning, order of numbers. -/
namespace WebCitation

inductive Locale where
  | en
  | es
  | pt
  | fr
  | de
  | it
deriving DecidableEq, Repr, Inhabited

namespace Locale

def all : List Locale := [en, es, pt, fr, de, it]

def code : Locale → String
  | en => "en"
  | es => "es"
  | pt => "pt"
  | fr => "fr"
  | de => "de"
  | it => "it"

def ofCode? (code : String) : Option Locale := all.find? (·.code == code)

def ofCode (code : String) : Except ConfigError Locale :=
  match ofCode? code with
  | some locale => .ok locale
  | none => .error (.unsupportedLocale code)

def months : Locale → List String
  | en => ["january", "february", "march", "april", "may", "june", "july", "august", "september",
    "october", "november", "december"]
  | es => ["enero", "febrero", "marzo", "abril", "mayo", "junio", "julio", "agosto", "septiembre",
    "octubre", "noviembre", "diciembre"]
  | pt => ["janeiro", "fevereiro", "março", "abril", "maio", "junho", "julho", "agosto", "setembro",
    "outubro", "novembro", "dezembro"]
  | fr => ["janvier", "février", "mars", "avril", "mai", "juin", "juillet", "août", "septembre",
    "octobre", "novembre", "décembre"]
  | de => ["januar", "februar", "märz", "april", "mai", "juni", "juli", "august", "september",
    "oktober", "november", "dezember"]
  | it => ["gennaio", "febbraio", "marzo", "aprile", "maggio", "giugno", "luglio", "agosto",
    "settembre", "ottobre", "novembre", "dicembre"]

/-- Words that may stand in a date and say nothing about it. -/
def fillers : Locale → List String
  | en => ["of", "the", "on", "at", "utc", "gmt", "am", "pm", "monday", "tuesday", "wednesday",
    "thursday", "friday", "saturday", "sunday", "mon", "tue", "wed", "thu", "fri", "sat", "sun"]
  | es => ["de", "del", "el", "a", "las", "lunes", "martes", "miércoles", "jueves", "viernes",
    "sábado", "domingo"]
  | pt => ["de", "do", "em", "segunda", "terça", "quarta", "quinta", "sexta", "feira", "sábado",
    "domingo"]
  | fr => ["le", "du", "lundi", "mardi", "mercredi", "jeudi", "vendredi", "samedi", "dimanche"]
  | de => ["den", "am", "um", "uhr", "montag", "dienstag", "mittwoch", "donnerstag", "freitag",
    "samstag", "sonntag"]
  | it => ["il", "del", "di", "lunedì", "martedì", "mercoledì", "giovedì", "venerdì", "sabato",
    "domenica"]

/-- Whether `1/2/2022` is the second of January. -/
def monthFirst : Locale → Bool
  | en => true
  | _ => false

/-- The month that a word names, in full or by its first three letters or more; of several the first. -/
def month? (locale : Locale) (word : List Char) : Option Nat :=
  let position (p : List Char → Bool) : Option Nat :=
    (locale.months.findIdx? fun name => p name.toList).map (· + 1)
  match position (· == word) with
  | some m => some m
  | none => if 3 ≤ word.length then position word.isPrefixOf else none

def isFiller (locale : Locale) (word : List Char) : Bool :=
  locale.fillers.any (·.toList == word)

end Locale
end WebCitation
