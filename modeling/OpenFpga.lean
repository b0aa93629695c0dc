import OpenFpga.Bitstream.Dispatch
import OpenFpga.Bitstream.FrameDecode
import OpenFpga.Bitstream.Returns
import OpenFpga.Verilog.TestbenchRun
