import StreamsMongo.Library.Bytes
import StreamsMongo.Shared.BsonData

set_option autoImplicit false

namespace StreamsMongo

open Bytes

-- The enumerator's value, as `(char)type` puts it into a byte.
def BSONType.typeByte : BSONType → UInt8
  | .minKey => 255
  | .eoo => 0
  | .numberDouble => 1
  | .string => 2
  | .object => 3
  | .array => 4
  | .binData => 5
  | .undefined => 6
  | .jstOID => 7
  | .bool => 8
  | .date => 9
  | .jstNULL => 10
  | .regEx => 11
  | .dbRef => 12
  | .code => 13
  | .symbol => 14
  | .codeWScope => 15
  | .numberInt => 16
  | .timestamp => 17
  | .numberLong => 18
  | .maxKey => 127

namespace Wire

def length (n : Nat) : List UInt8 := writeLE (BitVec.ofNat 32 n)

def name (fieldName : FieldName) : List UInt8 := cstring (utf8 fieldName.chars)

def text (str : String) : List UInt8 := length ((utf8 str).length + 1) ++ cstring (utf8 str)

def enclose (elements : List UInt8) : List UInt8 :=
  length (4 + elements.length + 1) ++ elements ++ [BSONType.eoo.typeByte]

mutual

def data : BSONValue → List UInt8
  | .minKey | .maxKey | .undefined | .jstNULL => []
  | .numberDouble bits => writeLE bits
  | .string str | .code str | .symbol str => text str
  | .object fields | .array fields => enclose (elements fields)
  | .binData subtype bytes => length bytes.length ++ [subtype] ++ bytes
  | .jstOID oid => writeLE oid
  | .bool boolean => [if boolean then 1 else 0]
  | .date millis => writeLE millis
  | .regEx regex flags => cstring (utf8 regex) ++ cstring (utf8 flags)
  | .dbRef ns oid => text ns ++ writeLE oid
  | .codeWScope code scope =>
      let body := text code ++ enclose (elements scope)
      length (4 + body.length) ++ body
  | .numberInt int => writeLE int
  | .timestamp seconds increment => writeLE increment ++ writeLE seconds
  | .numberLong long => writeLE long

def elements : List (FieldName × BSONValue) → List UInt8
  | [] => []
  | (fieldName, value) :: rest =>
      (value.type.typeByte :: name fieldName) ++ data value ++ elements rest

end

def element (be : BSONElement) : List UInt8 :=
  (be.2.type.typeByte :: name be.1) ++ data be.2

/-- `<unsigned totalSize> {<byte BSONType><cstring FieldName><Data>}* EOO` -/
def objdata (obj : BSONObj) : List UInt8 := enclose (elements obj)

end Wire

end StreamsMongo
