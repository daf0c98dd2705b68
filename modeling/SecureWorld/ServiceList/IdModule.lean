import SecureWorld.ServiceList.Entry
import SecureWorld.ServiceList.Error

/-!
# The module of service numbers

The module made of a service list: an enumeration of the services, and for each of them its number, its name, the
number of its words and its family. The module is given line by line.
-/

namespace SecureWorld.ServiceList

/-- A word in decimal digits. -/
def decimal (w : Word) : String :=
  toString w.toNat

/-- The lines above the enumeration, where the number of slots is given. -/
def preamble (slots : Word) : List String :=
  ["//! Secure service numbers.",
    "//!",
    "//! THIS FILE WAS AUTOMATICALLY GENERATED BY `service-table-gen` FROM",
    "//! `secure_service.tbl`. DO NOT EDIT!",
    "",
    "use crate::Family;",
    "",
    "/// Number of slots in the secure service table (highest number plus one).",
    "pub const MAX_SECURE_SERVICES: usize = " ++ decimal slots ++ ";",
    ""]

/-- The enumeration of the services with their numbers. -/
def enumeration (es : List Entry) : List String :=
  ["/// Identifier of a secure service.",
    "#[repr(usize)]",
    "#[derive(Debug, Copy, Clone, Eq, PartialEq, Ord, PartialOrd, Hash)]",
    "pub enum ServiceId \x7b"]
  ++ es.map (fun e => "    " ++ e.variant ++ " = " ++ decimal e.number ++ ",")
  ++ ["\x7d", ""]

/-- The constant that lists the services. -/
def listing (es : List Entry) : List String :=
  ["    /// All services in table order.",
    "    pub const ALL: [Self; " ++ toString es.length ++ "] = ["]
  ++ es.map (fun e => "        Self::" ++ e.variant ++ ",")
  ++ ["    ];"]

/-- An arm of a match. -/
def arm (pattern value : String) : String :=
  "            " ++ pattern ++ " => " ++ value ++ ","

/-- A method that is one match: its comment, its signature, what it matches on, and its arms. -/
def method (comment : List String) (signature subject : String) (arms : List String) : List String :=
  comment
  ++ ["    #[must_use]",
    "    pub const fn " ++ signature ++ " \x7b",
    "        match " ++ subject ++ " \x7b"]
  ++ arms
  ++ ["        \x7d", "    \x7d"]

/-- A method that is one match on the service. -/
def property (comment : List String) (signature : String) (value : Entry → String) (es : List Entry) :
    List String :=
  method comment signature "self" (es.map fun e => arm ("Self::" ++ e.variant) (value e))

/-- The method that finds the service of a number. -/
def fromRaw (es : List Entry) : List String :=
  method ["    /// Service for a raw identifier, if one is assigned."]
    "from_raw(nr: usize) -> Option<Self>" "nr"
    (es.map (fun e => arm (decimal e.number) ("Some(Self::" ++ e.variant ++ ")")) ++ [arm "_" "None"])

/-- The method that gives the name of a service. -/
def names (es : List Entry) : List String :=
  property ["    /// Table name of the service (`_ss_` prefix omitted)."]
    "name(self) -> &'static str" (fun e => "\"" ++ e.name ++ "\"") es

/-- The method that gives the number of words of a service. -/
def arities (es : List Entry) : List String :=
  property ["    /// Number of word arguments the service takes, not counting the id."]
    "nargs(self) -> usize" (fun e => decimal e.arity) es

/-- The method that gives the family of a service. -/
def families (es : List Entry) : List String :=
  property [] "family(self) -> Family" (fun e => "Family::" ++ if e.wraps then "Idf" else "Custom") es

/-- All lines of the module. -/
def moduleLines (slots : Word) (es : List Entry) : List String :=
  preamble slots ++ enumeration es ++ ["impl ServiceId \x7b"] ++ listing es
  ++ [""] ++ fromRaw es ++ [""] ++ names es ++ [""] ++ arities es ++ [""] ++ families es
  ++ ["\x7d"]

/-- The module of service numbers, each line with its line feed. A list without services is refused; a last
number without a successor is a fault. -/
def render (es : List Entry) : Except (Stop ListError) String :=
  if es.isEmpty then .error (.refused .empty)
  else
    match slots es with
    | .ok n => .ok (String.join ((moduleLines n es).map (· ++ "\n")))
    | .error f => .error (.fault f)

end SecureWorld.ServiceList
