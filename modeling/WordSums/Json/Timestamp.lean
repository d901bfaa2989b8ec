import WordSums.Json.Reader
import WordSums.Json.Writer
import WordSums.Time.Written

/-!
# Timestamps in documents

A timestamp stands in a document as a string of its written form.
-/

namespace WordSums.Time.Timestamp

open WordSums.Json

def document (time : Timestamp) : Document := .string time.text

def reader : Reader Timestamp := Reader.written read?

end WordSums.Time.Timestamp
