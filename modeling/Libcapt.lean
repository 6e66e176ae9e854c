import Libcapt.Compression.PageEncoding
import Libcapt.Compression.DecoderStreambuf
import Libcapt.Compression.CommandDecoding
import Libcapt.Compression.PageDecoding
import Libcapt.Compression.RoundTrip
import Libcapt.Streams.Comparison
import Libcapt.Compression.Reset
import Libcapt.Streams.Selection
import Libcapt.Utility.CropStreambuf
import Libcapt.Utility.Cropping
import Libcapt.Core.IOStream
import Libcapt.Core.PacketHeader
import Libcapt.Core.StreamPacket
import Libcapt.Core.PacketReading
import Libcapt.Core.PacketFraming
import Libcapt.Core.PacketBuilder
import Libcapt.Protocol.Protocol
import Libcapt.Protocol.Truncation
import Libcapt.Printer.BasicCaptPrinter
import Libcapt.Printer.Pairing
import Libcapt.Compression.CommandExecution
import Libcapt.Compression.LineTermination
import Libcapt.Compression.PageStructure
import Libcapt.Compression.DecoderRuns
import Libcapt.Compression.LineDelivery
import Libcapt.Utility.ShortReads
import Libcapt.Utility.BufferedPage
import Libcapt.Utility.Replay
import Libcapt.Printer.PageExchange
import Libcapt.Printer.Transmission
import Libcapt.Printer.TransmissionOrder
import Libcapt.Printer.Reprinting
import Libcapt.Tests.VideoDataStreambuf
import Libcapt.Tests.PageReading
import Libcapt.Compression.StreamUse
import Libcapt.Tests.EndToEnd
import Libcapt.Core.PacketFields
import Libcapt.Core.PacketReader
import Libcapt.Core.ReaderAgreement
import Libcapt.Protocol.ReprintDecision
import Libcapt.Utility.MoveAssignment
import Libcapt.Core.PacketExtraction
import Libcapt.Core.PacketOwnership
import Libcapt.Core.PacketProgram
import Libcapt.Core.PacketRuns
import Libcapt.Compression.CommandSizes
import Libcapt.Compression.Expansion
import Libcapt.Printer.InfoExchange
import Libcapt.Printer.BlockSize
import Libcapt.Compression.SplitRuns
import Libcapt.Compression.SplitMeaning
import Libcapt.Utility.Discarding
import Libcapt.Printer.Exchanges
import Libcapt.Examples.PbmHeader
import Libcapt.Examples.PrintPbm
import Libcapt.Compression.StreamChange
import Libcapt.Examples.JobCompletion
import Libcapt.Examples.JobPairing
import Libcapt.Examples.JobReadiness
import Libcapt.Examples.JobSession
import Libcapt.Tests.CompressedFile
import Libcapt.Tests.FileRoundTrip
import Libcapt.Examples.BufferCare
