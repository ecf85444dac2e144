import StreamsMongo.Codec.AccessPaths
import StreamsMongo.Codec.Conversion
import StreamsMongo.Codec.DecoderRefinement
import StreamsMongo.Codec.DecoderScopes
import StreamsMongo.Codec.EncoderExecution
import StreamsMongo.Codec.EncoderProgram
import StreamsMongo.Codec.EncoderRefinement
import StreamsMongo.Codec.FieldOrder
import StreamsMongo.Codec.IntegerReads
import StreamsMongo.Codec.Leaves
import StreamsMongo.Codec.Rereading
import StreamsMongo.Codec.Timestamps
import StreamsMongo.Library.Threads
import StreamsMongo.Operators.CachedQuery
import StreamsMongo.Operators.DocumentText
import StreamsMongo.Operators.GeneratedPipeline
import StreamsMongo.Operators.Pipeline
import StreamsMongo.Operators.PortNames
import StreamsMongo.Operators.QueryAccounting
import StreamsMongo.Operators.QueryRuns
import StreamsMongo.Operators.QueryThreads
import StreamsMongo.Operators.ThreadRuns
import StreamsMongo.Operators.WriteAsIs
import StreamsMongo.Operators.WriteCalls
import StreamsMongo.Operators.WriteErrors
import StreamsMongo.Operators.WriteScopes
import StreamsMongo.Operators.WriteThreads
import StreamsMongo.Wire.RoundTrip
