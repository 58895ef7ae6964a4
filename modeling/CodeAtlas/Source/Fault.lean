/-
CodeAtlas.Source.Fault — everything that can keep a slice from being shown.

A source should fail with a `FetchFailure`, which names the resource, the status
that the service gave and the reason; the fault behind it is its cause. Other
faults are possible too: sources can be plugged in, and some faults of the
built-in ones are not of their making, such as a base URL that is none.

`Fault.message` puts a fault into words. The faults of the program can all be put into
words; one of a part that is plugged in need not be, and what comes up instead then
is an `Escape`.

In the program the faults are its own, `FetchFailure`, `UnsupportedFormatError`
and `PluginNotFoundError`, and those of the libraries that it calls.
-/
import CodeAtlas.Json.Encoding
import CodeAtlas.Storage.Codec
import CodeAtlas.Url.Join
import CodeAtlas.View.Basic

namespace CodeAtlas

open CodeAtlas.Graph (SliceError)
open Json (ReadError)
open Storage (LoadError)
open Text (DecodingError)

/-- A resource that could not be obtained: the status that came instead, if
any, and the reason, if one is known. -/
structure FetchFailure where
  resource : Value
  status : Value := .null
  reason : Value := .null
  deriving DecidableEq

namespace FetchFailure

/-- What is said of a failure: its reason, else its status. -/
def detail (f : FetchFailure) : List Char :=
  if f.reason.isTruthy then f.reason.text
  else if f.status = .null then "failed".toList
  else "HTTP ".toList ++ f.status.text

def message (f : FetchFailure) : String :=
  "Fetching '" ++ String.ofList f.resource.text ++ "' failed: "
    ++ String.ofList f.detail

/-- All integers in the message are short enough to be written. -/
def isWritable (f : FetchFailure) : Bool :=
  f.resource.isWritable &&
    (if f.reason.isTruthy then f.reason.isWritable else f.status.isWritable)

end FetchFailure

/-- What can come up while something is put into words. -/
inductive Escape where
  /-- It holds an integer that is too long to be written. -/
  | tooLong
  | foreign (kind message : String)
  deriving DecidableEq

def Escape.message : Escape → String
  | .tooLong => Number.tooLongToWrite
  | .foreign _ message => message

/-- What can go wrong on the way from a source to a view. -/
inductive Fault where
  /-- A slice could not be fetched, because of another fault or not. -/
  | fetch (failure : FetchFailure) (cause : Option Fault)
  /-- The network failed in a known way. -/
  | network (kind message : String)
  /-- A part that is plugged in failed in a way of its own: the words for it, or what
  comes up when they are asked for. -/
  | foreign (kind : String) (words : Except Escape String)
  | url (cause : UrlError)
  | baseNotText (base : Value)
  /-- The base is no text, and too long to be shown. -/
  | baseTooLong
  | shortTimeout
  | unknownScheme (address : List Char)
  | parameterTooLong
  /-- Something cannot do what is asked of it. -/
  | lacks (kind operation : String)
  | nameNotText
  | encoding (cause : DecodingError)
  | document (cause : ReadError)
  | slice (cause : SliceError)
  | load (cause : LoadError)
  | nullByte
  | view (cause : ViewError)

namespace Fault

/-- What is said of something that cannot do what is asked of it. -/
def lacksText (kind operation : String) : String :=
  "'" ++ kind ++ "' object has no attribute '" ++ operation ++ "'"

/-- The words for a fault, unless something comes up. -/
def message : Fault → Except Escape String
  | .fetch failure _ => .ok failure.message
  | .network _ message => .ok message
  | .foreign _ words => words
  | .url cause => .ok cause.message
  | .baseNotText base =>
      .ok ("Invalid type for url.  Expected str or httpx.URL, got "
        ++ base.kindLiteral ++ ": " ++ String.ofList base.literal)
  | .baseTooLong => .ok Number.tooLongToWrite
  | .shortTimeout => .ok "tuple index out of range"
  | .unknownScheme address =>
      .ok ("unknown url type: " ++ String.ofList (Text.quoted address))
  | .parameterTooLong => .ok Number.tooLongToWrite
  | .lacks kind operation => .ok (lacksText kind operation)
  | .nameNotText => .ok "quote_from_bytes() expected bytes"
  | .encoding cause => .ok cause.message
  | .document cause => .ok cause.message
  | .slice cause => .ok cause.message
  | .load cause => .ok cause.message
  | .nullByte => .ok "embedded null byte"
  | .view cause => .ok cause.message

end Fault

end CodeAtlas
