import Ccid.Usb.Reader

/-! The report of the readers on a bus. -/

namespace Ccid.Usb

/-- A reader on one line. -/
def ReaderInfo.text (info : ReaderInfo) : String :=
  Hex.word .upper info.vendor ++ ":" ++ Hex.word .upper info.product
    ++ "  bus " ++ zeroPadded 3 info.bus.toNat
    ++ " address " ++ zeroPadded 3 info.address.toNat
    ++ "  interface " ++ info.interface.toNat.repr

/-- A line for every reader, or the word that there is none. -/
def readersText (readers : List ReaderInfo) : String :=
  if readers.isEmpty then "No CCID readers found"
  else String.intercalate "\n" (readers.map ReaderInfo.text)

/-- An array with an object for every reader. -/
def readersJson (readers : List ReaderInfo) : Json :=
  .arr (readers.map ReaderInfo.json)

end Ccid.Usb
